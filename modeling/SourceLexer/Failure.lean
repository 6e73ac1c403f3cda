import SourceLexer.Argument
import SourceLexer.Diagnostic
import SourceLexer.Text.Utf8

/-!
# Failures

Why a call did not return what it was asked for.  A failure is a cause, and `Failure.message`
puts it into words.

Three groups have to be told apart.  Misuse by the caller (`argument`, `closed`) says nothing
about the source text.  Bad source text (`lexical`) only fails a call when the caller asked to be
stopped at the first fault.  A full collector (`limitReached`) stops a lexer that would otherwise
go on.  The rest comes from around the lexer: files, their encoding, numbers out of range.
-/

namespace SourceLexer

/-- Why a call failed. -/
inductive Failure where
  /-- A value that a caller handed over was turned down. -/
  | argument (fault : ArgumentFault)
  /-- The operation was asked of a lexer that had been closed. -/
  | closed (operation : String)
  /-- The source text is bad, and the caller asked to be stopped there. -/
  | lexical (diagnostic : Diagnostic)
  /-- A collector has reached its limit. -/
  | limitReached (limit : Nat)
  /-- Somebody else gave up, in words of their own. -/
  | stopped (message : String)
  /-- A failure of no particular kind. -/
  | general (message : String)
  /-- A collector was asked for with a limit below one. -/
  | limitNotPositive (limit : Int)
  /-- A text was given in place of a character, and it is not one code point long. -/
  | notOneCharacter (length : Nat)
  /-- Nothing goes by this name. -/
  | unknownName (name : String)
  /-- The input is not UTF-8. -/
  | undecodable (fault : Text.Utf8.Fault)
  /-- A file is not there. -/
  | fileMissing (message : String)
  /-- A file may not be read. -/
  | accessDenied (message : String)
  /-- An inadmissible value somewhere else. -/
  | badValue (message : String)
  /-- Anything that was not foreseen. -/
  | unforeseen (message : String)
  deriving DecidableEq, Repr

/-- The wording of a failure.  Bad source text is rendered in full. -/
def Failure.message : Failure → String
  | .argument fault => fault.message
  | .closed operation => s!"cannot {operation}: lexer is closed"
  | .lexical diagnostic => diagnostic.render
  | .limitReached limit => s!"Too many errors ({limit}), stopping"
  | .limitNotPositive limit => s!"max_errors must be positive, got {limit}"
  | .notOneCharacter length =>
    s!"ord() expected a character, but string of length {length} found"
  | .unknownName name => Text.quote name
  | .undecodable fault => fault.message
  | .stopped message | .general message | .fileMissing message | .accessDenied message
  | .badValue message | .unforeseen message => message

/-- The cause for a text that is meant to be one bad character. -/
def Diagnostic.Cause.ofCharacterText (text : String) : Except Failure Diagnostic.Cause :=
  match text.toList with
  | [char] => .ok (.invalidCharacter char)
  | chars => .error (.notOneCharacter chars.length)

end SourceLexer
