import SourceLexer.Lexer.Run

/-!
# Log of a run

What a verbose run tells on its way.  Everything that is told can be read off the run afterwards,
so the log is made of its results: the faults that were recorded, the fault that stopped it, and
the number of tokens.
-/

namespace SourceLexer
namespace CommandLine

/-- Something worth telling. -/
inductive Event where
  | reading (filename : String)
  | opened (filename : String) (size : Nat)
  | found (diagnostic : Diagnostic)
  | recorded (diagnostic : Diagnostic)
  | closed (filename : String)
  | finished (count : Nat)
  deriving DecidableEq, Repr

namespace Event

/-- The place of a fault as the log prints it. -/
def place (diagnostic : Diagnostic) : String :=
  diagnostic.location.elim "None" Location.render

/-- What the log says. -/
def message : Event → String
  | .reading filename => s!"Tokenizing {filename}"
  | .opened filename size => s!"lexer created for {filename} ({size} chars)"
  | .found diagnostic => s!"lexical error at {place diagnostic}: {diagnostic.message}"
  | .recorded diagnostic => s!"recorded: {diagnostic.message} at {place diagnostic}"
  | .closed filename => s!"lexer closed for {filename}"
  | .finished count => s!"Tokenized: {count} tokens"

/-- A line of the log. -/
def line (event : Event) : String :=
  s!"DEBUG: {event.message}\n"

end Event

/-- The fault that stopped a strict run. -/
def stoppingFault? (run : Lexer.Run) : Option Diagnostic :=
  match run.failure with
  | some (.lexical diagnostic) => some diagnostic
  | _ => none

/-- What happens in a run over a source of the given size, in order. -/
def events (filename : String) (size : Nat) (run : Lexer.Run) : List Event :=
  [.reading filename, .opened filename size]
    ++ run.collector.toList.flatMap (fun diagnostic => [.found diagnostic, .recorded diagnostic])
    ++ (stoppingFault? run).toList.map .found
    ++ [.closed filename]
    ++ if run.failure.isNone then [.finished run.tokens.length] else []

end CommandLine
end SourceLexer
