/-!
# Reading integers

An integer is read generously: blanks around it are passed over, a sign may precede it, its digits
may belong to any script, and an underscore may stand between two digits.  What is read generously
is still bounded: a text of more than 4300 digits is refused.

The scripts are those of Unicode 14.0.0.  In each of them the ten digits are consecutive, so a
script is given by its zero.
-/

namespace SourceLexer
namespace Text

/-- The digit zero of every script that has decimal digits. -/
def zeros : List Nat :=
  [0x30, 0x660, 0x6f0, 0x7c0, 0x966, 0x9e6, 0xa66, 0xae6, 0xb66, 0xbe6, 0xc66, 0xce6, 0xd66, 0xde6,
    0xe50, 0xed0, 0xf20, 0x1040, 0x1090, 0x17e0, 0x1810, 0x1946, 0x19d0, 0x1a80, 0x1a90, 0x1b50,
    0x1bb0, 0x1c40, 0x1c50, 0xa620, 0xa8d0, 0xa900, 0xa9d0, 0xa9f0, 0xaa50, 0xabf0, 0xff10, 0x104a0,
    0x10d30, 0x11066, 0x110f0, 0x11136, 0x111d0, 0x112f0, 0x11450, 0x114d0, 0x11650, 0x116c0,
    0x11730, 0x118e0, 0x11950, 0x11c50, 0x11d50, 0x11da0, 0x16a60, 0x16ac0, 0x16b50, 0x1d7ce,
    0x1d7d8, 0x1d7e2, 0x1d7ec, 0x1d7f6, 0x1e140, 0x1e2f0, 0x1e950, 0x1fbf0]

/-- The value of a digit of any script. -/
def digitValue? (char : Char) : Option Nat :=
  (zeros.find? fun first => first ≤ char.toNat && char.toNat ≤ first + 9).map (char.toNat - ·)

/-- Whether a character may stand around an integer. -/
def isPadding (char : Char) : Bool :=
  let code := char.toNat
  (0x09 ≤ code && code ≤ 0x0d) || code = 0x20 || code = 0x85 || code = 0xa0 || code = 0x1680
    || (0x2000 ≤ code && code ≤ 0x200a) || code = 0x2028 || code = 0x2029 || code = 0x202f
    || code = 0x205f || code = 0x3000

/-- The values of the digits of a text that has nothing but digits and single underscores between
them. -/
def digitValues? : List Char → Option (List Nat)
  | [] => none
  | char :: rest => do
    let value ← digitValue? char
    match rest with
    | [] => return [value]
    | '_' :: more => return value :: (← digitValues? more)
    | next :: more => return value :: (← digitValues? (next :: more))

/-- The most digits that are read. -/
def maxDigits : Nat := 4300

/-- The number that a text of digits stands for. -/
def natural? (text : List Char) : Option Nat := do
  let values ← digitValues? text
  guard (values.length ≤ maxDigits)
  return values.foldl (fun number value => 10 * number + value) 0

/-- The text without the padding around it. -/
def trimmed (text : List Char) : List Char :=
  (((text.dropWhile isPadding).reverse).dropWhile isPadding).reverse

/-- The integer that a text stands for. -/
def integer? (text : String) : Option Int :=
  match trimmed text.toList with
  | '-' :: rest => (natural? rest).map fun number => -(number : Int)
  | '+' :: rest => (natural? rest).map Int.ofNat
  | rest => (natural? rest).map Int.ofNat

end Text
end SourceLexer
