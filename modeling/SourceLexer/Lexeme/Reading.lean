import SourceLexer.Diagnostic
import SourceLexer.Lexeme.Comment
import SourceLexer.Lexeme.Numeral
import SourceLexer.Lexeme.Quotation
import SourceLexer.Lexeme.Word

/-!
# Reading one lexeme

What stands at the front of a text from which the blanks have been taken off: a token, something
bad, or nothing at all.  Which of the readers applies is decided by the first character, and for a
comment by the first two; whatever none of the others takes has to be a symbol.

Every reading other than the end of the input takes up at least one character, which
`length_text_read_pos` says and on which the termination of everything further rests.
-/

namespace SourceLexer
namespace Lexeme

/-- What stands at the front of a text. -/
inductive Reading where
  | endOfInput
  /-- A token, with the lexeme that its reader gives it. -/
  | token (kind : Token.Kind) (lexeme : Option String) (text : List Char)
  | fault (cause : Diagnostic.Cause) (text : List Char)
  deriving DecidableEq, Repr

namespace Reading

/-- The text that a reading takes up. -/
def text : Reading → List Char
  | .endOfInput => []
  | .token _ _ text => text
  | .fault _ text => text

/-- A token that keeps the text as it is written. -/
def verbatim (kind : Token.Kind) (text : List Char) : Reading :=
  .token kind (some (String.ofList text)) text

/-- The comment at the front of the text.  One that does not close is bad. -/
def ofComment (comment : Comment) : Reading :=
  if comment.closed then verbatim .comment comment.text
  else .fault (.unterminatedComment (String.ofList comment.text)) comment.text

/-- The word at the front of the text. -/
def ofWord (word : List Char) : Reading :=
  verbatim (Word.kind word) word

/-- The numeral at the front of the text. -/
def ofNumeral (parts : Numeral.Parts) : Reading :=
  verbatim (.literal parts.form) parts.text

/-- A quotation in double quotes is a string. -/
def ofString (quotation : Quotation) : Reading :=
  if quotation.closed then verbatim (.literal .string) quotation.text
  else .fault (.unterminatedString (String.ofList quotation.text)) quotation.text

/-- A quotation in single quotes is a character, however many it holds. -/
def ofCharacter (quotation : Quotation) : Reading :=
  if quotation.closed then verbatim (.literal .character) quotation.text
  else .fault (.unterminatedCharacter (String.ofList quotation.text)) quotation.text

/-- The symbol that one character stands for. -/
def ofSingle (char : Char) : Reading :=
  match Symbol.ofChar? char with
  | some symbol => .token (.symbol symbol) none [char]
  | none => .fault (.invalidCharacter char) [char]

/-- The symbol at the front of the text, of two characters if there is one. -/
def ofSymbol (char : Char) (rest : List Char) : Reading :=
  match rest with
  | [] => ofSingle char
  | second :: _ =>
    match Symbol.ofPair? char second with
    | some symbol => .token (.symbol symbol) none [char, second]
    | none => ofSingle char

/-- Reads the lexeme at the front of the text. -/
def read : List Char → Reading
  | [] => .endOfInput
  | char :: rest =>
    match Comment.style? (char :: rest) with
    | some style => ofComment (Comment.read style (char :: rest))
    | none =>
      if Word.isStart char then ofWord (Word.read (char :: rest))
      else if char.isDigit then ofNumeral (Numeral.read (char :: rest))
      else if char = '"' then ofString (Quotation.read char rest)
      else if char = '\'' then ofCharacter (Quotation.read char rest)
      else ofSymbol char rest

@[simp] theorem read_nil : read [] = .endOfInput := rfl

@[simp] theorem text_verbatim (kind : Token.Kind) (text : List Char) :
    (verbatim kind text).text = text := rfl

@[simp] theorem text_ofComment (comment : Comment) : (ofComment comment).text = comment.text := by
  unfold ofComment
  split <;> rfl

@[simp] theorem text_ofString (quotation : Quotation) :
    (ofString quotation).text = quotation.text := by
  unfold ofString
  split <;> rfl

@[simp] theorem text_ofCharacter (quotation : Quotation) :
    (ofCharacter quotation).text = quotation.text := by
  unfold ofCharacter
  split <;> rfl

@[simp] theorem text_ofSingle (char : Char) : (ofSingle char).text = [char] := by
  unfold ofSingle
  split <;> rfl

theorem length_text_ofSymbol_pos (char : Char) (rest : List Char) :
    0 < (ofSymbol char rest).text.length := by
  unfold ofSymbol
  split
  · simp
  · split
    · simp [text]
    · simp

theorem text_ofSymbol_isPrefix_self (char : Char) (rest : List Char) :
    (ofSymbol char rest).text <+: char :: rest := by
  unfold ofSymbol
  split
  · simp
  · next second rest =>
    split
    · exact List.prefix_append [char, second] rest
    · rw [text_ofSingle]
      exact List.prefix_append [char] _

/-- A reading takes up text from the front, and leaves what is behind it as it is. -/
theorem text_read_isPrefix_self (text : List Char) : (read text).text <+: text := by
  cases text with
  | nil => exact List.nil_prefix
  | cons char rest =>
    rw [read]
    split
    · next style _ => simpa using Comment.read_isPrefix_self style (char :: rest)
    · split
      · exact List.takeWhile_prefix _
      · split
        · exact Numeral.text_read_isPrefix_self _
        · split
          · next h => simpa [h] using Quotation.read_isPrefix_self char rest
          · split
            · next h => simpa [h] using Quotation.read_isPrefix_self char rest
            · exact text_ofSymbol_isPrefix_self char rest

/-- Reading takes up text wherever there is text left. -/
theorem length_text_read_pos (char : Char) (rest : List Char) :
    0 < (read (char :: rest)).text.length := by
  rw [read]
  split
  · next style h => simpa using Comment.length_read_pos h
  · split
    · next h => simp [ofWord, Word.read_cons h]
    · split
      · next h => simpa [ofNumeral] using Numeral.length_text_read_pos h rest
      · split
        · simpa using Quotation.length_read_pos char rest
        · split
          · simpa using Quotation.length_read_pos char rest
          · exact length_text_ofSymbol_pos char rest

end Reading
end Lexeme
end SourceLexer
