/-!
# Cursors

A cursor is a place in a source text, held as the text to its left and the text to its right.

## Where the input ends

A NUL ends the input, wherever it stands.  So what lies to the right comes in two parts: `live` is
the text up to the first NUL, which is all that is ever read, and `beyond` is that NUL and
everything after it.  A cursor moves through `live` and stops where it is used up.  What lies
beyond is still shown by `Cursor.peek` and by `Cursor.lineText`, since both show the source as it
is and do not read it.

## Positions

Lines and columns count from one, and only a line feed starts a new line.  They are carried along
by `Cursor.advance` one character at a time.
-/

namespace SourceLexer

/-- The character that ends the input, and that stands for everything outside the source. -/
def endMark : Char := '\x00'

/-- A place in a source text. -/
structure Cursor where
  /-- What has been passed, the nearest character first. -/
  before : List Char
  /-- What can still be read. -/
  live : List Char
  /-- The first NUL to the right and all that follows it. -/
  beyond : List Char
  line : Nat
  column : Nat
  deriving DecidableEq, Repr

namespace Cursor

/-- The cursor at the start of a text. -/
def ofText (text : List Char) : Cursor where
  before := []
  live := text.takeWhile (· != endMark)
  beyond := text.dropWhile (· != endMark)
  line := 1
  column := 1

/-- The whole text that the cursor stands in. -/
def source (cursor : Cursor) : List Char :=
  cursor.before.reverse ++ cursor.live ++ cursor.beyond

/-- How many characters have been passed. -/
def index (cursor : Cursor) : Nat :=
  cursor.before.length

/-- How many characters the source has. -/
def size (cursor : Cursor) : Nat :=
  cursor.before.length + cursor.live.length + cursor.beyond.length

/-- The character at the cursor. -/
def current (cursor : Cursor) : Char :=
  cursor.live.headD endMark

/-- The cursor one character on; at the end of the input it stays where it is. -/
def advance (cursor : Cursor) : Cursor :=
  match cursor.live with
  | [] => cursor
  | char :: live =>
    { cursor with
      before := char :: cursor.before
      live := live
      line := if char = '\n' then cursor.line + 1 else cursor.line
      column := if char = '\n' then 1 else cursor.column + 1 }

/-- The cursor a number of characters on, or at the end of the input if there are fewer. -/
def advanceBy : Nat → Cursor → Cursor
  | 0, cursor => cursor
  | count + 1, cursor => advanceBy count cursor.advance

/-- The character at a distance from the cursor, in either direction.  To the left of the source
there is its first character over and over, to the right of it the end mark. -/
def peek (cursor : Cursor) (offset : Int) : Char :=
  cursor.source.getD (cursor.index + offset).toNat endMark

/-- The line of the source that the cursor stands on. -/
def lineText (cursor : Cursor) : List Char :=
  (cursor.before.takeWhile (· != '\n')).reverse
    ++ (cursor.live ++ cursor.beyond).takeWhile (· != '\n')

@[simp] theorem source_ofText (text : List Char) : (ofText text).source = text := by
  simp [source, ofText, List.takeWhile_append_dropWhile]

@[simp] theorem size_eq_length_source (cursor : Cursor) : cursor.source.length = cursor.size := by
  simp [source, size, Nat.add_assoc]

@[simp] theorem live_advance (cursor : Cursor) : cursor.advance.live = cursor.live.drop 1 := by
  unfold advance
  split <;> simp_all

@[simp] theorem beyond_advance (cursor : Cursor) : cursor.advance.beyond = cursor.beyond := by
  unfold advance
  split <;> rfl

@[simp] theorem source_advance (cursor : Cursor) : cursor.advance.source = cursor.source := by
  unfold advance
  split <;> simp_all [source]

/-- Moving on takes characters off the front of the live text, and nothing else changes what is
left to read. -/
@[simp] theorem live_advanceBy (count : Nat) (cursor : Cursor) :
    (advanceBy count cursor).live = cursor.live.drop count := by
  induction count generalizing cursor with
  | zero => simp [advanceBy]
  | succ count ih => simp [advanceBy, ih]

@[simp] theorem source_advanceBy (count : Nat) (cursor : Cursor) :
    (advanceBy count cursor).source = cursor.source := by
  induction count generalizing cursor with
  | zero => rfl
  | succ count ih => simp [advanceBy, ih]

end Cursor
end SourceLexer
