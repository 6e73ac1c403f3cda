import SourceLexer.Lexer.Basic

/-!
# Runs

A run takes tokens from a lexer until it has the end of the input, or until a call fails.  The
tokens before the failing call are kept.
-/

namespace SourceLexer
namespace Lexer

/-- What a run yields, with the lexer and the collector as it leaves them. -/
structure Run where
  tokens : List Token
  /-- Why the run stopped before the end of the input, if it did. -/
  failure : Option Failure
  lexer : Lexer
  collector : Collector

/-- The run that begins with a token and goes on as another run. -/
def Run.cons (token : Token) (run : Run) : Run :=
  { run with tokens := token :: run.tokens }

/-- Takes tokens up to the end of the input. -/
def drain (lexer : Lexer) (collector : Collector) : Run :=
  let step := lexer.next collector
  match _ : step.outcome with
  | .error failure => ⟨[], some failure, step.lexer, step.collector⟩
  | .ok token =>
    if token.kind = .endOfInput then ⟨[token], none, step.lexer, step.collector⟩
    else (drain step.lexer step.collector).cons token
  termination_by lexer.cursor.live.length
  decreasing_by exact live_length_lt_of_next ‹_› ‹_›

/-! ## The three ways a run goes on -/

section

variable {lexer : Lexer} {collector : Collector}

theorem drain_of_error {failure : Failure}
    (h : (lexer.next collector).outcome = .error failure) :
    drain lexer collector =
      ⟨[], some failure, (lexer.next collector).lexer, (lexer.next collector).collector⟩ := by
  rw [drain]
  split
  · next found hfound => rw [h] at hfound; cases hfound; rfl
  · next found hfound => rw [h] at hfound; cases hfound

theorem drain_of_end {token : Token} (h : (lexer.next collector).outcome = .ok token)
    (hkind : token.kind = .endOfInput) :
    drain lexer collector =
      ⟨[token], none, (lexer.next collector).lexer, (lexer.next collector).collector⟩ := by
  rw [drain]
  split
  · next found hfound => rw [h] at hfound; cases hfound
  · next found hfound => rw [h] at hfound; cases hfound; rw [if_pos hkind]

theorem drain_of_token {token : Token} (h : (lexer.next collector).outcome = .ok token)
    (hkind : token.kind ≠ .endOfInput) :
    drain lexer collector =
      (drain (lexer.next collector).lexer (lexer.next collector).collector).cons token := by
  rw [drain]
  split
  · next found hfound => rw [h] at hfound; cases hfound
  · next found hfound => rw [h] at hfound; cases hfound; rw [if_neg hkind]

end

/-- The tokens of a whole source.  However the run ends, the lexer is closed afterwards. -/
def tokenize (source : Argument) (options : Options) (collector : Option Collector) :
    Except Failure Run := do
  let (lexer, collector) ← create source options collector
  let run := drain lexer collector
  return { run with lexer := run.lexer.leave }

/-- The tokens of a run, or why there is not the whole of them. -/
def Run.result (run : Run) : Except Failure (List Token) :=
  match run.failure with
  | some failure => .error failure
  | none => .ok run.tokens

end Lexer
end SourceLexer
