/-!
# Comments

A line comment runs from two slashes up to the next line feed, which is not part of it.  A block
comment runs from a slash and a star through the next star and slash; these must be two characters
of their own, so a slash, a star and a slash only open a comment.

## Looking ahead and reading

A line comment always closes, with the end of the input if need be.  A block comment need not, and
whether it does is found out in two ways.  `Comment.closes` looks for the closing pair without
reading anything; it decides whether a comment may be passed over.  `Comment.read` reads the
comment character by character and reports at its end whether it was closed.
-/

namespace SourceLexer
namespace Lexeme

/-- A comment as far as it goes. -/
structure Comment where
  text : List Char
  /-- Whether the comment has come to its own end. -/
  closed : Bool
  deriving DecidableEq, Repr

namespace Comment

/-- The two ways to write a comment. -/
inductive Style where
  | line | block
  deriving DecidableEq, Repr

/-- The style of the comment with which the text starts. -/
def style? : List Char → Option Style
  | '/' :: '/' :: _ => some .line
  | '/' :: '*' :: _ => some .block
  | _ => none

/-- How far into the text the first closing pair stands. -/
def closerAt? : List Char → Option Nat
  | [] => none
  | '*' :: '/' :: _ => some 0
  | _ :: rest => (closerAt? rest).map (· + 1)

/-- Whether the comment at the front of the text comes to its end before the text does. -/
def closes (text : List Char) : Bool :=
  match style? text with
  | some .line => true
  | some .block => (closerAt? (text.drop 2)).isSome
  | none => false

/-- What follows the opening of a block comment, through its closing pair or to the end. -/
def readBody : List Char → Comment
  | [] => ⟨[], false⟩
  | '*' :: '/' :: _ => ⟨['*', '/'], true⟩
  | char :: rest =>
    let body := readBody rest
    ⟨char :: body.text, body.closed⟩

/-- The comment of the given style at the front of the text. -/
def read (style : Style) (text : List Char) : Comment :=
  match style with
  | .line => ⟨text.takeWhile (· != '\n'), true⟩
  | .block =>
    let body := readBody (text.drop 2)
    ⟨text.take 2 ++ body.text, body.closed⟩

/-- Nothing is read that does not stand in the text. -/
theorem readBody_isPrefix_self (text : List Char) : (readBody text).text <+: text := by
  fun_induction readBody text with
  | case1 => exact List.nil_prefix
  | case2 rest => exact ⟨rest, rfl⟩
  | case3 char rest _ _ ih => exact (List.prefix_cons_inj char).2 ih

theorem read_isPrefix_self (style : Style) (text : List Char) :
    (read style text).text <+: text := by
  cases style with
  | line => exact List.takeWhile_prefix _
  | block =>
    obtain ⟨rest, hrest⟩ := readBody_isPrefix_self (text.drop 2)
    exact ⟨rest, by rw [read, List.append_assoc, hrest, List.take_append_drop]⟩

/-- A comment has at least the character it starts with. -/
theorem length_read_pos {style : Style} {text : List Char} (h : style? text = some style) :
    0 < (read style text).text.length := by
  unfold style? at h
  split at h
  · cases h; simp [read]
  · cases h; simp [read]
  · cases h

end Comment
end Lexeme
end SourceLexer
