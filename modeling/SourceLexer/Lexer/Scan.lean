import SourceLexer.Cursor
import SourceLexer.Lexeme.Blank
import SourceLexer.Lexeme.Reading
import SourceLexer.Token.Basic

/-!
# Scans

One scan goes from a cursor over the blanks and over the lexeme behind them.  It always yields a
token: bad text becomes a token of the kind `error`, and what is wrong with it comes along as a
diagnostic.  What is then done about the diagnostic is not decided here, so a scan is the same
under every policy on errors.

## Progress

`live_length_lt_of_scan` says that a scan that does not find the end of the input leaves less to
read than there was before.
-/

namespace SourceLexer

open Lexeme (Reading)

/-- How a lexer is to work. -/
structure Options where
  /-- The name of the source text in locations. -/
  filename : String := "<input>"
  /-- Whether the first fault of the text fails the call that finds it. -/
  strict : Bool := false
  /-- Whether comments are tokens. -/
  keepComments : Bool := false
  /-- The limit of the collector that a lexer makes for itself. -/
  maxErrors : Option Int := none
  deriving DecidableEq, Repr

/-- What one scan finds. -/
structure Scan where
  token : Token
  /-- What is wrong, if the token is bad text. -/
  diagnostic : Option Diagnostic
  /-- Where the scan has come to. -/
  cursor : Cursor
  deriving DecidableEq, Repr

/-- The cursor behind the blanks. -/
def Cursor.skipBlanks (keepComments : Bool) (cursor : Cursor) : Cursor :=
  cursor.advanceBy (Lexeme.blanks keepComments cursor.live).length

namespace Scan

/-- A token that starts at the given cursor. -/
def tokenAt (options : Options) (cursor : Cursor) (kind : Token.Kind)
    (lexeme : Option String) : Token :=
  ⟨kind, lexeme, cursor.line, cursor.column, options.filename⟩

/-- A fault that starts at the given cursor. -/
def diagnosticAt (options : Options) (cursor : Cursor) (cause : Diagnostic.Cause) : Diagnostic where
  cause := cause
  location := some ⟨options.filename, cursor.line, cursor.column⟩
  sourceLine := some (String.ofList cursor.lineText)

/-- What a reading at the given cursor amounts to. -/
def ofReading (options : Options) (start : Cursor) (reading : Reading) : Scan :=
  match reading with
  | .endOfInput => ⟨tokenAt options start .endOfInput none, none, start⟩
  | .token kind lexeme text =>
    ⟨tokenAt options start kind lexeme, none, start.advanceBy text.length⟩
  | .fault cause text =>
    ⟨tokenAt options start .error cause.lexeme, some (diagnosticAt options start cause),
      start.advanceBy text.length⟩

end Scan

/-- Scans from the cursor over blanks and one lexeme. -/
def Cursor.scan (options : Options) (cursor : Cursor) : Scan :=
  let start := cursor.skipBlanks options.keepComments
  Scan.ofReading options start (Reading.read start.live)

namespace Scan

@[simp] theorem live_skipBlanks (keepComments : Bool) (cursor : Cursor) :
    (cursor.skipBlanks keepComments).live
      = cursor.live.drop (Lexeme.blanks keepComments cursor.live).length := by
  simp [Cursor.skipBlanks]

/-- A scan moves over exactly the text of its reading. -/
theorem live_ofReading (options : Options) (start : Cursor) (reading : Reading) :
    (ofReading options start reading).cursor.live = start.live.drop reading.text.length := by
  cases reading <;> simp [ofReading, Reading.text]

/-- A scan that finds more than the end of the input has less to read afterwards. -/
theorem live_length_lt_of_scan {options : Options} {cursor : Cursor}
    (h : (cursor.scan options).token.kind ≠ .endOfInput) :
    (cursor.scan options).cursor.live.length < cursor.live.length := by
  have hskip : (cursor.skipBlanks options.keepComments).live.length ≤ cursor.live.length := by
    simp
  simp only [Cursor.scan] at h ⊢
  generalize cursor.skipBlanks options.keepComments = start at h hskip ⊢
  rw [live_ofReading]
  -- the reading takes up text unless there is none, and then it is the end of the input
  cases hlive : start.live with
  | nil =>
    rw [hlive] at h
    exact absurd rfl h
  | cons char rest =>
    have hpos := Reading.length_text_read_pos char rest
    rw [hlive] at hskip
    simp only [List.length_drop, List.length_cons] at hskip ⊢
    omega

end Scan
end SourceLexer
