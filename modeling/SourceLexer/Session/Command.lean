import SourceLexer.Session.Basic

/-!
# Commands

What can be asked of a session, and what it answers.  A command that fails leaves the session as
the failing call left it: a name that was to be given anew is gone, a cursor stands behind the
text that was read, and a diagnostic that filled a collector is held by it.
-/

namespace SourceLexer

/-- A change to one of a lexer's options.  A lexer looks at its options anew at every call, except
that its collector keeps the limit with which it was made. -/
inductive Options.Change where
  | filename (value : String)
  | strict (value : Bool)
  | keepComments (value : Bool)
  | maxErrors (value : Option Int)
  deriving DecidableEq, Repr

/-- The options after a change. -/
def Options.apply (options : Options) : Options.Change → Options
  | .filename value => { options with filename := value }
  | .strict value => { options with strict := value }
  | .keepComments value => { options with keepComments := value }
  | .maxErrors value => { options with maxErrors := value }

namespace Session

/-- A collector, by its own name or as the one that a lexer reports to. -/
inductive Target where
  | collector (name : String)
  | lexerOf (name : String)
  deriving DecidableEq, Repr

/-- What can be asked of a session. -/
inductive Command where
  /-- Forgets the lexer of that name and makes a new one, which reports to the named collector or
  else to one of its own. -/
  | create (lexer : String) (source : Argument) (options : Options) (collector : Option String)
  | next (lexer : String)
  | advance (lexer : String) (count : Nat)
  | peek (lexer : String) (offset : Int)
  | skipBlanks (lexer : String)
  | close (lexer : String)
  /-- Begins a use of a lexer that `leave` ends. -/
  | enter (lexer : String)
  | leave (lexer : String)
  | change (lexer : String) (change : Options.Change)
  | drain (lexer : String)
  /-- Gives a name to a new iterator over a lexer. -/
  | iterate (lexer iterator : String)
  | step (iterator : String)
  /-- Forgets the collector of that name and makes a new one. -/
  | collect (collector : String) (limit : Option Int)
  /-- Reports a diagnostic, or fails as making the diagnostic did. -/
  | report (collector : String) (diagnostic : Except Failure Diagnostic)
  | hasErrors (collector : String)
  | errorCount (collector : String)
  | entries (collector : String)
  | summary (target : Target)
  | clear (target : Target)
  /-- Takes all tokens of a source with a lexer made for the purpose. -/
  | tokenize (collector : String) (source : Argument) (options : Options)

/-- What a session answers. -/
inductive Reply where
  | done
  | flag (value : Bool)
  | count (value : Nat)
  | char (value : Char)
  | text (value : String)
  | token (value : Token)
  | tokens (values : List Token)
  /-- The iterator is finished. -/
  | finished
  | diagnostics (values : List Diagnostic)

/-- An answer, with the session as it is then. -/
abbrev Answer := Except Failure Reply × Session

/-- A call on a lexer and its collector. -/
abbrev Call := Lexer → Collector → Lexer.Step Reply

namespace Call

/-- A call that answers something and changes nothing. -/
def asking (ask : Lexer → Except Failure Reply) : Call := fun lexer collector =>
  ⟨ask lexer, lexer, collector⟩

/-- A call that changes the lexer unless it fails. -/
def moving (move : Lexer → Except Failure Lexer) : Call := fun lexer collector =>
  match move lexer with
  | .ok moved => ⟨.ok .done, moved, collector⟩
  | .error failure => ⟨.error failure, lexer, collector⟩

/-- The next token. -/
def next : Call := fun lexer collector =>
  let step := lexer.next collector
  ⟨step.outcome.map .token, step.lexer, step.collector⟩

/-- All tokens up to the end of the input. -/
def drain : Call := fun lexer collector =>
  let run := lexer.drain collector
  ⟨run.result.map .tokens, run.lexer, run.collector⟩

end Call

/-- Makes a call on the lexer at a place. -/
def callAt (session : Session) (place : Nat) (call : Call) : Answer :=
  match session.seats[place]? with
  | none => (.ok .done, session)
  | some seat =>
    let step := call seat.lexer (session.collectorAt seat.collector)
    (step.outcome, session.updateSeat place { seat with lexer := step.lexer } step.collector)

/-- Makes a call on the lexer of a name. -/
def call (session : Session) (name : String) (call : Call) : Answer :=
  match resolve session.lexerNames name with
  | .error failure => (.error failure, session)
  | .ok place => session.callAt place call

/-- The place of a collector. -/
def placeOf (session : Session) : Target → Except Failure Nat
  | .collector name => resolve session.collectorNames name
  | .lexerOf name => do
    let place ← resolve session.lexerNames name
    match session.seats[place]? with
    | some seat => return seat.collector
    | none => .error (.unknownName name)

/-- Does something with a collector. -/
def onCollector (session : Session) (target : Target)
    (act : Collector → Except Failure Reply × Collector) : Answer :=
  match session.placeOf target with
  | .error failure => (.error failure, session)
  | .ok place =>
    let acted := act (session.collectorAt place)
    (acted.1, session.updateCollector place acted.2)

/-- Asks something of a collector. -/
def askCollector (session : Session) (target : Target) (ask : Collector → Reply) : Answer :=
  session.onCollector target fun collector => (.ok (ask collector), collector)

/-- Makes a lexer and gives it a name, which is free by now. -/
def create (session : Session) (name : String) (source : Argument) (options : Options)
    (collector : Option String) : Answer :=
  match collector with
  | none =>
    match Lexer.create source options none with
    | .error failure => (.error failure, session)
    | .ok (lexer, made) =>
      (.ok .done, (session.addCollector made).addLexer name lexer session.collectors.size)
  | some collector =>
    match resolve session.collectorNames collector with
    | .error failure => (.error failure, session)
    | .ok place =>
      match Lexer.create source options (some (session.collectorAt place)) with
      | .error failure => (.error failure, session)
      | .ok (lexer, _) => (.ok .done, session.addLexer name lexer place)

/-- Makes a step with the iterator of a name. -/
def step (session : Session) (name : String) : Answer :=
  match resolve session.readers name with
  | .error failure => (.error failure, session)
  | .ok reader =>
    match session.seats[reader.seat]? with
    | none => (.ok .finished, session)
    | some seat =>
      let step := reader.iterator.step seat.lexer (session.collectorAt seat.collector)
      let session := session.updateSeat reader.seat { seat with lexer := step.lexer } step.collector
      (step.outcome.map fun token => token.elim .finished .token,
        { session with
          readers := session.readers.bind name { reader with iterator := step.iterator } })

/-- Does what a command asks for. -/
def perform (session : Session) : Command → Answer
  | .create name source options collector =>
    { session with lexerNames := session.lexerNames.unbind name }.create name source options
      collector
  | .next name => session.call name Call.next
  | .advance name count => session.call name (Call.moving (·.advance count))
  | .peek name offset => session.call name (Call.asking fun lexer => (lexer.peek offset).map .char)
  | .skipBlanks name => session.call name (Call.moving Lexer.skipBlanks)
  | .close name => session.call name (Call.moving Lexer.close)
  | .enter name => session.call name (Call.asking fun _ => .ok (.flag true))
  | .leave name => session.call name (Call.moving fun lexer => .ok lexer.leave)
  | .change name change =>
    session.call name
      (Call.moving fun lexer => .ok { lexer with options := lexer.options.apply change })
  | .drain name => session.call name Call.drain
  | .iterate name iterator =>
    match resolve session.lexerNames name with
    | .error failure => (.error failure, session)
    | .ok place =>
      (.ok .done, { session with readers := session.readers.bind iterator ⟨{}, place⟩ })
  | .step iterator => session.step iterator
  | .collect name limit =>
    let session := { session with collectorNames := session.collectorNames.unbind name }
    match Collector.ofLimit? limit with
    | .error failure => (.error failure, session)
    | .ok collector =>
      let place := session.collectors.size
      (.ok .done,
        { session.addCollector collector with
          collectorNames := session.collectorNames.bind name place })
  | .report name diagnostic =>
    match diagnostic with
    | .error failure => (.error failure, session)
    | .ok diagnostic =>
      session.onCollector (.collector name) fun collector =>
        let report := collector.report diagnostic
        (report.1.map fun () => .done, report.2)
  | .hasErrors name => session.askCollector (.collector name) fun c => .flag (c.size ≠ 0)
  | .errorCount name => session.askCollector (.collector name) fun c => .count c.size
  | .entries name => session.askCollector (.collector name) fun c => .diagnostics c.toList
  | .summary target => session.askCollector target fun c => .text c.summary
  | .clear target => session.onCollector target fun c => (.ok .done, c.clear)
  | .tokenize name source options =>
    session.onCollector (.collector name) fun collector =>
      match Lexer.tokenize source options (some collector) with
      | .error failure => (.error failure, collector)
      | .ok run => (run.result.map .tokens, run.collector)

end Session
end SourceLexer
