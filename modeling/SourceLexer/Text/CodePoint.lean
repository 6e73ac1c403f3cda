/-!
# Numeric escapes of characters

A character that cannot be shown is written by its code point in hexadecimal, in one of three
forms of fixed width: two digits after `x`, four after `u`, eight after `U`.  The narrowest form
that fits is used, and since each letter announces its width, no separator is needed.
-/

namespace SourceLexer
namespace Text

/-- The lower-case hexadecimal digit of a number below sixteen. -/
def hexDigit (n : Nat) : Char :=
  Char.ofNat (if n < 10 then 48 + n else 87 + n)

/-- The last `width` hexadecimal digits of a number, highest first. -/
def hexDigits : Nat → Nat → List Char
  | 0, _ => []
  | width + 1, n => hexDigits width (n / 16) ++ [hexDigit (n % 16)]

/-- The number of hexadecimal digits that a number needs. -/
def hexWidth (n : Nat) : Nat :=
  if n < 16 then 1 else hexWidth (n / 16) + 1

/-- A number in upper-case hexadecimal with at least `width` digits. -/
def hexPadded (width n : Nat) : List Char :=
  (hexDigits (max width (hexWidth n)) n).map Char.toUpper

/-- The numeric escape of a character, in the narrowest form that holds its code point. -/
def codePointEscape (char : Char) : List Char :=
  if char.toNat ≤ 0xff then '\\' :: 'x' :: hexDigits 2 char.toNat
  else if char.toNat ≤ 0xffff then '\\' :: 'u' :: hexDigits 4 char.toNat
  else '\\' :: 'U' :: hexDigits 8 char.toNat

end Text
end SourceLexer
