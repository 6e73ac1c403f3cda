import SourceLexer.Failure

/-!
# Exit codes

How a program that was started from a command line tells its caller what came of it: a number,
and for a failure also a notice.
-/

namespace SourceLexer
namespace CommandLine

/-- What came of a program. -/
inductive ExitCode where
  | success
  /-- The source text has faults. -/
  | lexicalError
  /-- The arguments are wrong, or the input cannot be read. -/
  | invalidArguments
  | internalError
  deriving DecidableEq, Repr

namespace ExitCode

/-- Every exit code, in ascending order. -/
def all : List ExitCode :=
  [.success, .lexicalError, .invalidArguments, .internalError]

/-- The number that stands for an exit code. -/
def toNat : ExitCode → Nat
  | .success => 0
  | .lexicalError => 1
  | .invalidArguments => 2
  | .internalError => 3

/-- The name of an exit code. -/
def name : ExitCode → String
  | .success => "SUCCESS"
  | .lexicalError => "LEXICAL_ERROR"
  | .invalidArguments => "INVALID_ARGS"
  | .internalError => "INTERNAL_ERROR"

/-- The exit code for a failure. -/
def ofFailure : Failure → ExitCode
  | .lexical _ | .limitReached _ | .stopped _ | .general _ => .lexicalError
  | .argument _ | .closed _ | .undecodable _ | .fileMissing _ | .accessDenied _ =>
    .invalidArguments
  | .limitNotPositive _ | .notOneCharacter _ | .unknownName _ | .badValue _ | .unforeseen _ =>
    .internalError

end ExitCode

/-- What a failure says to the user.  Bad source text speaks for itself; every other failure is
announced as one. -/
def announcement (failure : Failure) : String :=
  match failure, ExitCode.ofFailure failure with
  | .lexical diagnostic, _ => diagnostic.render
  | _, .internalError => s!"Internal error: {failure.message}"
  | _, _ => s!"Error: {failure.message}"

/-- What is written when a failure ends a program, line breaks included.  What the failure quotes is
not to steer a terminal, so `strip` takes out what would.  For an internal error, `verbose` adds
where it came from, and there is nowhere to point to. -/
def noticeBy (strip : String → String) (verbose : Bool) (failure : Failure) : String :=
  strip (announcement failure) ++ "\n"
    ++ if verbose ∧ ExitCode.ofFailure failure = .internalError then "NoneType: None\n" else ""

end CommandLine
end SourceLexer
