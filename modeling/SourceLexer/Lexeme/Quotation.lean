/-!
# Quotations

A quotation is a string or a character literal: a quote, then items, then the same quote.  An item
is a single character, or a backslash with the character after it, whatever that is, so that an
escaped quote does not close the literal and an escaped line feed does not break it off.  Escapes
are kept as they are written; nothing here decides what they mean.

A line feed that is not escaped ends a quotation before its time and is not part of it, and so
does the end of the input.  A backslash that is the last character of the input belongs to the
quotation that it leaves open.
-/

namespace SourceLexer
namespace Lexeme

/-- A quotation as far as it goes. -/
structure Quotation where
  text : List Char
  /-- Whether the closing quote has been found. -/
  closed : Bool
  deriving DecidableEq, Repr

namespace Quotation

/-- The same quotation with more in front of it. -/
def after (front : List Char) (quotation : Quotation) : Quotation :=
  ⟨front ++ quotation.text, quotation.closed⟩

/-- What follows the opening quote, through the closing one or to where the literal breaks off. -/
def readItems (quote : Char) : List Char → Quotation
  | [] => ⟨[], false⟩
  | char :: rest =>
    if char = quote then ⟨[quote], true⟩
    else if char = '\n' then ⟨[], false⟩
    else if char = '\\' then
      match rest with
      | [] => ⟨['\\'], false⟩
      | escaped :: rest => (readItems quote rest).after ['\\', escaped]
    else (readItems quote rest).after [char]

/-- The quotation at the front of a text that starts with the given quote. -/
def read (quote : Char) (rest : List Char) : Quotation :=
  (readItems quote rest).after [quote]

/-- Nothing is read that does not stand in the text. -/
theorem readItems_isPrefix_self (quote : Char) (text : List Char) :
    (readItems quote text).text <+: text := by
  fun_induction readItems quote text with
  | case1 => exact List.nil_prefix
  | case2 rest => exact ⟨rest, rfl⟩
  | case3 => exact List.nil_prefix
  | case4 => exact List.prefix_rfl
  | case5 escaped rest _ _ ih => exact (List.prefix_append_right_inj ['\\', escaped]).2 ih
  | case6 char rest _ _ _ ih => exact (List.prefix_append_right_inj [char]).2 ih

theorem read_isPrefix_self (quote : Char) (rest : List Char) :
    (read quote rest).text <+: quote :: rest :=
  (List.prefix_append_right_inj [quote]).2 (readItems_isPrefix_self quote rest)

theorem length_read_pos (quote : Char) (rest : List Char) :
    0 < (read quote rest).text.length := by
  simp [read, after]

end Quotation
end Lexeme
end SourceLexer
