import SourceLexer.Collector
import SourceLexer.Lexer.Scan

/-!
# Lexers

A lexer is a cursor with options, until it is closed.  Its collector is not part of it, because
collectors are shared: a call that can report a fault is given the collector and returns it.

## Calls that fail

A call that fails still leaves a lexer and a collector behind, so `Lexer.Step` holds the outcome
beside them.  By the time a fault is reported the cursor has passed the bad text, so that calling
again goes on behind it.

Nothing can be asked of a closed lexer, and asking changes nothing.
-/

namespace SourceLexer

/-- A lexer over one source text. -/
structure Lexer where
  cursor : Cursor
  options : Options := {}
  closed : Bool := false
  deriving DecidableEq, Repr

namespace Lexer

/-- What a call comes to, with the lexer and the collector as it leaves them. -/
structure Step (α : Type) where
  outcome : Except Failure α
  lexer : Lexer
  collector : Collector

/-- The text that a lexer is asked to work on. -/
def sourceOf : Argument → Except ArgumentFault (List Char)
  | .null => .error .sourceMissing
  | .text source => .ok source.toList
  | given => .error (.sourceNotText given)

/-- A lexer at the start of a source, with the collector it reports to.  If no collector is given,
one is made with the limit from the options; otherwise that limit is not looked at. -/
def create (source : Argument) (options : Options) (collector : Option Collector) :
    Except Failure (Lexer × Collector) := do
  let text ← (sourceOf source).mapError .argument
  let collector ← match collector with
    | some collector => pure collector
    | none => Collector.ofLimit? options.maxErrors
  return ({ cursor := Cursor.ofText text, options }, collector)

/-- The name under which taking a token is refused: skipping blanks is the first thing it does. -/
def skipping : String := "skip whitespace"

/-- Fails if the lexer is closed. -/
def requireOpen (lexer : Lexer) (operation : String) : Except Failure Unit :=
  if lexer.closed then .error (.closed operation) else .ok ()

/-- The lexer a number of characters on.  Moving by nothing at all is never refused. -/
def advance (lexer : Lexer) (count : Nat) : Except Failure Lexer := do
  if 0 < count then lexer.requireOpen "advance"
  return { lexer with cursor := lexer.cursor.advanceBy count }

/-- The character at a distance from the cursor. -/
def peek (lexer : Lexer) (offset : Int) : Except Failure Char := do
  lexer.requireOpen "peek"
  return lexer.cursor.peek offset

/-- The lexer behind the blanks. -/
def skipBlanks (lexer : Lexer) : Except Failure Lexer := do
  lexer.requireOpen skipping
  return { lexer with cursor := lexer.cursor.skipBlanks lexer.options.keepComments }

/-- The lexer closed, for good. -/
def close (lexer : Lexer) : Except Failure Lexer := do
  lexer.requireOpen "close"
  return { lexer with closed := true }

/-- The lexer closed, whether it was open or not. -/
def leave (lexer : Lexer) : Lexer :=
  { lexer with closed := true }

/-- What becomes of a scan.  A fault fails the call if the call is strict, and then it is not
recorded; otherwise it is reported, and the call fails only if that fills the collector. -/
def settle (strict : Bool) (scan : Scan) (collector : Collector) :
    Except Failure Token × Collector :=
  match scan.diagnostic with
  | none => (.ok scan.token, collector)
  | some diagnostic =>
    if strict then (.error (.lexical diagnostic), collector)
    else
      let report := collector.report diagnostic
      (report.1.map fun () => scan.token, report.2)

/-- The next token. -/
def next (lexer : Lexer) (collector : Collector) : Step Token :=
  if lexer.closed then ⟨.error (.closed skipping), lexer, collector⟩
  else
    let scan := lexer.cursor.scan lexer.options
    let settled := settle lexer.options.strict scan collector
    ⟨settled.1, { lexer with cursor := scan.cursor }, settled.2⟩

theorem next_of_closed {lexer : Lexer} (h : lexer.closed = true) (collector : Collector) :
    lexer.next collector = ⟨.error (.closed skipping), lexer, collector⟩ := by
  simp [next, h]

/-- Of an open lexer, a call moves the cursor as one scan does, whatever becomes of the scan. -/
theorem next_of_open {lexer : Lexer} (h : lexer.closed = false) (collector : Collector) :
    lexer.next collector =
      ⟨(settle lexer.options.strict (lexer.cursor.scan lexer.options) collector).1,
        { lexer with cursor := (lexer.cursor.scan lexer.options).cursor },
        (settle lexer.options.strict (lexer.cursor.scan lexer.options) collector).2⟩ := by
  simp [next, h]

/-- A token that is returned is the one that the scan found. -/
theorem eq_token_of_settle {strict : Bool} {scan : Scan} {collector : Collector} {token : Token}
    (h : (settle strict scan collector).1 = .ok token) : token = scan.token := by
  unfold settle at h
  split at h
  · cases h; rfl
  · next diagnostic _ =>
    split at h
    · cases h
    · cases hreport : (collector.report diagnostic).1 <;> simp_all [Except.map]

/-- A call that returns more than the end of the input leaves less to read. -/
theorem live_length_lt_of_next {lexer : Lexer} {collector : Collector} {token : Token}
    (h : (lexer.next collector).outcome = .ok token) (hkind : token.kind ≠ .endOfInput) :
    (lexer.next collector).lexer.cursor.live.length < lexer.cursor.live.length := by
  cases hclosed : lexer.closed with
  | true => simp [next_of_closed hclosed] at h
  | false =>
    rw [next_of_open hclosed] at h ⊢
    have htoken := eq_token_of_settle h
    exact Scan.live_length_lt_of_scan (htoken ▸ hkind)

end Lexer
end SourceLexer
