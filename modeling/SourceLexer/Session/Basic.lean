import SourceLexer.Lexer.Iterator
import SourceLexer.Lexer.Run

/-!
# Sessions

A session holds lexers, collectors and iterators that go by names, and that refer to each other:
several lexers may report to one collector, and an iterator takes its tokens from some lexer.

## Names and what they stand for

A name can be given to something new while the old thing is still in use, by a lexer that reports
to it or by an iterator that reads from it.  So names do not stand for lexers and collectors
themselves but for their places in the session, and a place is never given up.
-/

namespace SourceLexer

/-- Names with what they stand for. -/
abbrev Bindings (α : Type) := List (String × α)

namespace Bindings

variable {α : Type}

/-- The bindings without the given name. -/
def unbind (bindings : Bindings α) (name : String) : Bindings α :=
  bindings.filter fun binding => binding.1 ≠ name

/-- The bindings with the given name standing for something new. -/
def bind (bindings : Bindings α) (name : String) (value : α) : Bindings α :=
  (name, value) :: bindings.unbind name

end Bindings

/-- A lexer together with the place of the collector it reports to. -/
structure Session.Seat where
  lexer : Lexer
  collector : Nat

/-- An iterator together with the place of the lexer it reads from. -/
structure Session.Reader where
  iterator : Iterator := {}
  seat : Nat

/-- Lexers, collectors and iterators by name. -/
structure Session where
  /-- Every lexer that was ever made, by place. -/
  seats : Array Session.Seat := #[]
  /-- Every collector that was ever made, by place. -/
  collectors : Array Collector := #[]
  lexerNames : Bindings Nat := []
  collectorNames : Bindings Nat := []
  readers : Bindings Session.Reader := []

namespace Session

/-- What a name stands for. -/
def resolve {α : Type} (bindings : Bindings α) (name : String) : Except Failure α :=
  match bindings.lookup name with
  | some value => .ok value
  | none => .error (.unknownName name)

/-- The collector at a place; a place that is not taken counts as an empty one. -/
def collectorAt (session : Session) (place : Nat) : Collector :=
  session.collectors.getD place {}

/-- The lexer of a name and its collector. -/
def lexer? (session : Session) (name : String) : Option (Lexer × Collector) := do
  let place ← session.lexerNames.lookup name
  let seat ← session.seats[place]?
  return (seat.lexer, session.collectorAt seat.collector)

/-- The collector of a name. -/
def collector? (session : Session) (name : String) : Option Collector :=
  (session.collectorNames.lookup name).map session.collectorAt

/-- The session with another lexer at a place, and what that lexer reports to in its place. -/
def updateSeat (session : Session) (place : Nat) (seat : Seat) (collector : Collector) : Session :=
  { session with
    seats := session.seats.setIfInBounds place seat
    collectors := session.collectors.setIfInBounds seat.collector collector }

/-- The session with another collector at a place. -/
def updateCollector (session : Session) (place : Nat) (collector : Collector) : Session :=
  { session with collectors := session.collectors.setIfInBounds place collector }

/-- The session with one more collector. -/
def addCollector (session : Session) (collector : Collector) : Session :=
  { session with collectors := session.collectors.push collector }

/-- The session with one more lexer, and a name for it. -/
def addLexer (session : Session) (name : String) (lexer : Lexer) (collector : Nat) : Session :=
  { session with
    seats := session.seats.push ⟨lexer, collector⟩
    lexerNames := session.lexerNames.bind name session.seats.size }

end Session
end SourceLexer
