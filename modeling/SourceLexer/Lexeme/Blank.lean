import SourceLexer.Lexeme.Comment

/-!
# Blanks

What stands between tokens: blank characters and, unless they are wanted as tokens, comments.  A
block comment that never closes is not a blank, because it has to be reported.

Only the space, the tab, the carriage return and the line feed are blank.
-/

namespace SourceLexer
namespace Lexeme

/-- Whether a character only separates tokens. -/
def isBlank (char : Char) : Bool :=
  char = ' ' || char = '\t' || char = '\r' || char = '\n'

/-- The blanks at the front of the text. -/
def blanks (keepComments : Bool) (text : List Char) : List Char :=
  match text with
  | [] => []
  | char :: rest =>
    if isBlank char then char :: blanks keepComments rest
    else
      match Comment.style? (char :: rest) with
      | some style =>
        if !keepComments && Comment.closes (char :: rest) then
          -- the comment takes up `char`, so one character less comes off `rest`
          let comment := Comment.read style (char :: rest)
          comment.text ++ blanks keepComments (rest.drop (comment.text.length - 1))
        else []
      | none => []
  termination_by text.length
  decreasing_by
    all_goals
      simp only [List.length_drop, List.length_cons]
      omega

@[simp] theorem blanks_nil (keepComments : Bool) : blanks keepComments [] = [] := by
  rw [blanks]

end Lexeme
end SourceLexer
