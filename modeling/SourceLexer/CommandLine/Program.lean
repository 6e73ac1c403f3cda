import SourceLexer.CommandLine.Arguments
import SourceLexer.CommandLine.ExitCode
import SourceLexer.CommandLine.Log
import SourceLexer.Text.ControlSequence
import SourceLexer.Text.Newline
import SourceLexer.Token.Dump

/-!
# The token dumper

The program as a function: from the words of a command line and what they lead to, to an exit code
and the two output texts.  The input is decoded strictly, its line breaks are unified, and then
every token is dumped on a line of its own.  Faults do not stop the dump unless that was asked for,
but any fault makes the exit code that of a lexical error.

The error text has up to three parts, in this order: the log of a verbose run, the report on the
recorded faults, and the notice on what stopped the run.  The last two quote the source, and what
would steer a terminal is taken out of them; the log shows the name of the source as it was given.

## What steers a terminal

How a text is cleared of that is left open up to `performBy`, which asks for a function `strip` to
do it.  `notice` and `perform` are what is written to something that is no terminal: there it is the
control sequences that are taken out.
-/

namespace SourceLexer
namespace CommandLine

/-- The release of the program. -/
def version : String := "0.1.0"

/-- What the program leaves behind. -/
structure Outcome where
  exit : ExitCode
  output : String
  errors : String
  deriving DecidableEq, Repr

/-- The text for those who ask for the version. -/
def versionText : String := s!"frostlex, version {version}\n"

/-- The text for those who ask for help. -/
def helpText : String :=
  "\n".intercalate
    ["Usage: main [OPTIONS] INPUT_FILE",
      "",
      "  Print the tokens of a Frost source file.",
      "",
      "  INPUT_FILE is the source file to tokenize, or - for stdin.",
      "",
      "  Examples:",
      "      frostlex main.fr              # Dump all tokens",
      "      frostlex --comments main.fr   # Include comments",
      "      frostlex --strict main.fr     # Fail on the first error",
      "",
      "Options:",
      "  --strict                    Stop at the first lexical error",
      "  --comments                  Include COMMENT tokens in the output",
      "  --max-errors INTEGER RANGE  Stop after this many lexical errors  [x>=1]",
      "  -v, --verbose               Verbose output",
      "  --version                   Show the version and exit.",
      "  --help                      Show this message and exit.",
      ""]

namespace Source

/-- The name that tokens and faults give to the source. -/
def filename : Source → String
  | .standardInput => "<stdin>"
  | .file path _ => path

/-- The bytes of the source, given those of the standard input. -/
def bytes (standardInput : List UInt8) : Source → List UInt8
  | .standardInput => standardInput
  | .file _ content => content

end Source

/-- The options for the lexer of a job. -/
def Job.options (job : Job) : Options where
  filename := job.source.filename
  strict := job.strict
  keepComments := job.keepComments

/-- The run of a job over a text.  The lexer is closed whatever happens. -/
def Job.run (job : Job) (text : List Char) : Lexer.Run :=
  let run := Lexer.drain { cursor := Cursor.ofText text, options := job.options }
    { limit := job.limit }
  { run with lexer := run.lexer.leave }

/-- The exit code of a run. -/
def exitCode (run : Lexer.Run) : ExitCode :=
  match run.failure with
  | some failure => .ofFailure failure
  | none => if run.collector.size = 0 then .success else .lexicalError

section

variable (strip : String → String)

/-- The report on the recorded faults, if there are any. -/
def reportText (collector : Collector) : String :=
  if collector.size = 0 then "" else strip collector.summary ++ "\n"

/-- What a job leaves behind, given the text of its source. -/
def Job.outcome (job : Job) (text : List Char) : Outcome :=
  let run := job.run text
  let log :=
    if job.verbose then (events job.source.filename text.length run).map Event.line else []
  { exit := exitCode run
    output := String.join (run.tokens.map fun token => s!"{token.dumpLine}\n")
    errors := String.join log ++ reportText strip run.collector
      ++ run.failure.elim "" (noticeBy strip job.verbose) }

/-- What is left behind when a failure comes before anything else. -/
def failed (verbose : Bool) (failure : Failure) : Outcome :=
  ⟨.ofFailure failure, "", noticeBy strip verbose failure⟩

/-- Dumps the tokens that a job asks for, given the bytes of the standard input. -/
def Job.perform (standardInput : List UInt8) (job : Job) : Outcome :=
  match Text.Utf8.decode (job.source.bytes standardInput) with
  | .error fault => failed strip job.verbose (.undecodable fault)
  | .ok text => job.outcome strip (Text.unifyNewlines text)

/-- What the words of a command line come to: either there is a job to do, or everything that is
to be said is known already.  `look` tells what a path leads to. -/
def plan (look : String → Option FileTree.Node) (words : List String) : Outcome ⊕ Job :=
  match (Arguments.ofList words).bind (Arguments.request look) with
  | .error fault => .inl ⟨.invalidArguments, "", fault.notice strip⟩
  | .ok .version => .inl ⟨.success, versionText, ""⟩
  | .ok .help => .inl ⟨.success, helpText, ""⟩
  | .ok (.dump job) => .inr job

/-- The whole program, where `look` tells what a path leads to. -/
def performBy (look : String → Option FileTree.Node) (standardInput : List UInt8)
    (words : List String) : Outcome :=
  match plan strip look words with
  | .inl outcome => outcome
  | .inr job => job.perform strip standardInput

end

/-! ## Where the output is no terminal -/

/-- What is written when a failure ends a program. -/
def notice (verbose : Bool) (failure : Failure) : String :=
  noticeBy Text.plain verbose failure

/-- The whole program, where `look` tells what a path leads to. -/
def perform (look : String → Option FileTree.Node) (standardInput : List UInt8)
    (words : List String) : Outcome :=
  performBy Text.plain look standardInput words

end CommandLine
end SourceLexer
