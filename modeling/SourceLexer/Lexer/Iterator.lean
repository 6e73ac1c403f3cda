import SourceLexer.Lexer.Basic

/-!
# Iterators

An iterator takes one token after the other from a lexer that it does not own.  It has no place of
its own in the text: iterators of one lexer, and calls made on the lexer itself, take turns on the
one cursor.

An iterator is finished once it has returned the end of the input, and also once a call made
through it has failed; from then on it asks nothing of its lexer.
-/

namespace SourceLexer

/-- An iterator over the tokens of some lexer. -/
structure Iterator where
  finished : Bool := false
  deriving DecidableEq, Repr

/-- What a step of an iterator comes to: a token, or nothing if the iterator was finished. -/
structure Iterator.Step where
  outcome : Except Failure (Option Token)
  iterator : Iterator
  lexer : Lexer
  collector : Collector

/-- One step of an iterator on its lexer. -/
def Iterator.step (iterator : Iterator) (lexer : Lexer) (collector : Collector) : Iterator.Step :=
  if iterator.finished then ⟨.ok none, iterator, lexer, collector⟩
  else
    let step := lexer.next collector
    match step.outcome with
    | .error failure => ⟨.error failure, ⟨true⟩, step.lexer, step.collector⟩
    | .ok token =>
      ⟨.ok (some token), ⟨token.kind = .endOfInput⟩, step.lexer, step.collector⟩

end SourceLexer
