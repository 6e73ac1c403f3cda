import SourceLexer.Proofs.Session.Turns

/-!
# Closing a lexer

A lexer is closed once, by a call or at the end of its use, and then it stays as it is.  What comes
later may be anything at all: the lexer is called under all of its names, iterators go on reading
from it, names are given anew and other lexers report to its collector.

## Why nothing happens

Calls look whether the lexer is open before they do anything else, so a call that is refused has
touched nothing.  Taking a token does not look by itself: skipping the blanks comes first, and it
is there that the call is refused.  A step of an iterator is such a call, unless the iterator was
finished.

`Lexer.lasting_eq_of_closed` is all that a session has to know about this: what a closed lexer was
and what it is are the same.  Only an option can still be set.

## Runs of their own

The lexer that `Lexer.tokenize` makes for itself is closed in every case
(`Lexer.tokenize_closes`): the run ends with the end of the input, or with a fault of the text, or
with a full collector, and with nothing else.
-/

namespace SourceLexer

/-! ## Closed lexers -/

namespace Lexer

section

variable {lexer : Lexer} (h : lexer.closed = true)

include h

theorem requireOpen_of_closed (operation : String) :
    lexer.requireOpen operation = .error (.closed operation) := by
  rw [requireOpen, if_pos h]

theorem advance_succ_of_closed (count : Nat) :
    lexer.advance (count + 1) = .error (.closed "advance") := by
  rw [advance, if_pos (Nat.succ_pos count), requireOpen_of_closed h]
  rfl

theorem peek_of_closed (offset : Int) : lexer.peek offset = .error (.closed "peek") := by
  rw [peek, requireOpen_of_closed h]
  rfl

theorem skipBlanks_of_closed : lexer.skipBlanks = .error (.closed skipping) := by
  rw [skipBlanks, requireOpen_of_closed h]
  rfl

theorem close_of_closed : lexer.close = .error (.closed "close") := by
  rw [close, requireOpen_of_closed h]
  rfl

theorem leave_of_closed : lexer.leave = lexer := by
  obtain ⟨cursor, options, closed⟩ := lexer
  obtain rfl : closed = true := h
  rfl

theorem drain_of_closed (collector : Collector) :
    lexer.drain collector = ⟨[], some (.closed skipping), lexer, collector⟩ := by
  have hnext := next_of_closed h collector
  have houtcome : (lexer.next collector).outcome = .error (.closed skipping) := by rw [hnext]
  rw [drain_of_error houtcome, hnext]

end

theorem close_of_open {lexer : Lexer} (hopen : lexer.closed = false) :
    lexer.close = .ok lexer.leave := by
  rw [close, requireOpen, hopen]
  rfl

/-- Calls leave a closed lexer as it is. -/
theorem lasting_eq_of_closed :
    Lasting fun first second => first.closed = true → second = first where
  refl _ _ := rfl
  trans h h' hclosed := by
    obtain rfl := h hclosed
    exact h' hclosed
  next lexer collector hclosed := by rw [next_of_closed hclosed]
  advance count hmoved hclosed := by
    cases count with
    | zero =>
      cases hmoved
      rfl
    | succ count =>
      rw [advance_succ_of_closed hclosed] at hmoved
      cases hmoved
  skipBlanks hmoved hclosed := by
    rw [skipBlanks_of_closed hclosed] at hmoved
    cases hmoved
  close hmoved hclosed := by
    rw [close_of_closed hclosed] at hmoved
    cases hmoved
  leave _ hclosed := leave_of_closed hclosed

/-- Options may be set meanwhile; all the rest of a closed lexer stays. -/
theorem lasting_of_closed (unchanged : Prop) :
    Lasting fun first second => first.closed = true → second.closed = true
      ∧ second.cursor = first.cursor ∧ (unchanged → second.options = first.options) := by
  have hidle : ∀ {first second : Lexer}, (first.closed = true → second = first) →
      first.closed = true → second.closed = true
        ∧ second.cursor = first.cursor ∧ (unchanged → second.options = first.options) := by
    intro first second hsame hclosed
    rw [hsame hclosed]
    exact ⟨hclosed, rfl, fun _ => rfl⟩
  have hcalls := lasting_eq_of_closed
  refine ⟨fun _ => hidle fun _ => rfl, ?_,
    fun lexer collector => hidle (hcalls.next lexer collector),
    fun count hmoved => hidle (hcalls.advance count hmoved),
    fun hmoved => hidle (hcalls.skipBlanks hmoved), fun hmoved => hidle (hcalls.close hmoved),
    fun lexer => hidle (hcalls.leave lexer)⟩
  intro first second third h h' hclosed
  obtain ⟨hclosed', hcursor, hoptions⟩ := h hclosed
  obtain ⟨hclosed'', hcursor', hoptions'⟩ := h' hclosed'
  exact ⟨hclosed'', hcursor'.trans hcursor,
    fun hunchanged => (hoptions' hunchanged).trans (hoptions hunchanged)⟩

/-! ## Runs that close their lexer -/

/-- A call on an open lexer fails at a fault of the text or with a full collector. -/
theorem error_of_next {lexer : Lexer} (hopen : lexer.closed = false) {collector : Collector}
    {failure : Failure} (h : (lexer.next collector).outcome = .error failure) :
    (∃ diagnostic, failure = .lexical diagnostic) ∨ ∃ limit, failure = .limitReached limit := by
  rw [next_of_open hopen] at h
  cases hdiagnostic : (lexer.cursor.scan lexer.options).diagnostic with
  | none =>
    rw [settle_of_none hdiagnostic] at h
    cases h
  | some diagnostic =>
    cases hstrict : lexer.options.strict with
    | true =>
      rw [hstrict, settle_strict_of_some hdiagnostic] at h
      exact .inl ⟨diagnostic, (Except.error.inj h).symm⟩
    | false =>
      rw [hstrict, settle_lenient_of_some hdiagnostic] at h
      cases hreached : (collector.push diagnostic).reached? with
      | none =>
        simp only [Collector.report, hreached] at h
        cases h
      | some limit =>
        simp only [Collector.report, hreached] at h
        exact .inr ⟨limit, (Except.error.inj h).symm⟩

/-- Once it has its lexer, a run of its own closes it, whether it has all the tokens or stops at a
fault of the text or at a full collector. -/
theorem tokenize_closes {source : Argument} {options : Options} {collector : Option Collector}
    {lexer : Lexer} {held : Collector} (h : create source options collector = .ok (lexer, held)) :
    ∃ run, tokenize source options collector = .ok run ∧ run.lexer.closed = true
      ∧ ((∃ tokens, run.result = .ok tokens)
        ∨ (∃ diagnostic, run.result = .error (.lexical diagnostic))
        ∨ ∃ limit, run.result = .error (.limitReached limit)) := by
  have hrun : tokenize source options collector
      = .ok { lexer.drain held with lexer := (lexer.drain held).lexer.leave } := by
    rw [tokenize, h]
    rfl
  refine ⟨_, hrun, rfl, ?_⟩
  cases hfailure : (lexer.drain held).failure with
  | none => exact .inl ⟨_, by rw [Run.result, hfailure]⟩
  | some failure =>
    have hopen : lexer.closed = false := by
      obtain ⟨text, rfl⟩ := exists_ofText_of_create h
      rfl
    have hfront := drainWith_isFront (fun _ => lexer.options) lexer held
    rw [← drain_eq_drainWith] at hfront
    have hfails := hfront.failure failure hfailure
    have hresult : ({ lexer.drain held with lexer := (lexer.drain held).lexer.leave } : Run).result
        = .error failure := by
      simp only [Run.result, hfailure]
    rw [hresult]
    rcases error_of_next (closed_stateBefore hopen _) hfails with ⟨diagnostic, rfl⟩ | ⟨limit, rfl⟩
    · exact .inr (.inl ⟨diagnostic, rfl⟩)
    · exact .inr (.inr ⟨limit, rfl⟩)

end Lexer

namespace Session

/-! ## Calls that are refused -/

/-- The lexer that a command needs to be open, and the operation that is refused otherwise. -/
def Command.needsOpen? : Command → Option (String × String)
  | .next name => some (name, Lexer.skipping)
  | .advance name (_ + 1) => some (name, "advance")
  | .peek name _ => some (name, "peek")
  | .skipBlanks name => some (name, Lexer.skipping)
  | .close name => some (name, "close")
  | .drain name => some (name, Lexer.skipping)
  | _ => none

section

variable {session : Session} {name : String} {place : Nat} {seat : Seat}

/-- A call that leaves the lexer and its collector as they are changes nothing in the session. -/
theorem call_of_idle (hname : session.lexerNames.lookup name = some place)
    (hseat : session.seats[place]? = some seat) {call : Call} {outcome : Except Failure Reply}
    (hcall : ∀ collector, call seat.lexer collector = ⟨outcome, seat.lexer, collector⟩) :
    session.call name call = (outcome, session) := by
  rw [call_eq_of_lookup hname hseat, hcall]
  exact Prod.ext rfl (updateSeat_self hseat)

theorem perform_of_needsOpen {command : Command} {operation : String}
    (hneeds : command.needsOpen? = some (name, operation))
    (hname : session.lexerNames.lookup name = some place)
    (hseat : session.seats[place]? = some seat) (hclosed : seat.lexer.closed = true) :
    session.perform command = (.error (.closed operation), session) := by
  cases command with
  | next =>
    cases hneeds
    refine call_of_idle hname hseat fun collector => ?_
    rw [Call.next, Lexer.next_of_closed hclosed]
    rfl
  | advance _ count =>
    cases count with
    | zero => cases hneeds
    | succ count =>
      cases hneeds
      refine call_of_idle hname hseat fun collector => ?_
      rw [Call.moving, Lexer.advance_succ_of_closed hclosed]
  | peek _ offset =>
    cases hneeds
    refine call_of_idle hname hseat fun collector => ?_
    rw [Call.asking, Lexer.peek_of_closed hclosed]
    rfl
  | skipBlanks =>
    cases hneeds
    refine call_of_idle hname hseat fun collector => ?_
    rw [Call.moving, Lexer.skipBlanks_of_closed hclosed]
  | close =>
    cases hneeds
    refine call_of_idle hname hseat fun collector => ?_
    rw [Call.moving, Lexer.close_of_closed hclosed]
  | drain =>
    cases hneeds
    refine call_of_idle hname hseat fun collector => ?_
    rw [Call.drain, Lexer.drain_of_closed hclosed]
    rfl
  | _ => cases hneeds

theorem perform_leave_of_closed (hname : session.lexerNames.lookup name = some place)
    (hseat : session.seats[place]? = some seat) (hclosed : seat.lexer.closed = true) :
    session.perform (.leave name) = (.ok .done, session) := by
  refine call_of_idle hname hseat fun collector => ?_
  rw [Call.moving, Lexer.leave_of_closed hclosed]

theorem perform_step_of_closed {iterator : String} {reader : Reader}
    (hreader : session.readers.lookup iterator = some reader)
    (hseat : session.seats[reader.seat]? = some seat) (hclosed : seat.lexer.closed = true)
    (hfinished : reader.iterator.finished = false) :
    session.perform (.step iterator)
      = (.error (.closed Lexer.skipping),
          { session with readers := session.readers.bind iterator ⟨⟨true⟩, reader.seat⟩ }) := by
  have hstep : session.perform (.step iterator) = _ := step_eq_of_lookup hreader hseat
  rw [Iterator.step_of_unfinished hfinished, Lexer.next_of_closed hclosed] at hstep
  rw [hstep]
  refine Prod.ext rfl ?_
  exact congrArg (fun same : Session =>
    { same with readers := session.readers.bind iterator ⟨⟨true⟩, reader.seat⟩ })
    (updateSeat_self hseat)

end

/-! ## Calls on one lexer only -/

/-- The lexer that a command calls. -/
def Command.lexer? : Command → Option String
  | .next name => some name
  | .advance name _ => some name
  | .peek name _ => some name
  | .skipBlanks name => some name
  | .close name => some name
  | .enter name => some name
  | .leave name => some name
  | .drain name => some name
  | _ => none

theorem snd_perform_of_closed {session : Session} {name : String} {place : Nat} {seat : Seat}
    {command : Command} (hlexer : command.lexer? = some name)
    (hname : session.lexerNames.lookup name = some place)
    (hseat : session.seats[place]? = some seat) (hclosed : seat.lexer.closed = true) :
    (session.perform command).2 = session := by
  cases command with
  | next | peek | skipBlanks | close | drain =>
    cases hlexer
    rw [perform_of_needsOpen rfl hname hseat hclosed]
  | advance _ count =>
    cases hlexer
    cases count with
    | zero => exact congrArg Prod.snd (call_of_idle hname hseat fun collector => rfl)
    | succ count => rw [perform_of_needsOpen rfl hname hseat hclosed]
  | enter =>
    cases hlexer
    exact congrArg Prod.snd (call_of_idle hname hseat fun collector => rfl)
  | leave =>
    cases hlexer
    rw [perform_leave_of_closed hname hseat hclosed]
  | _ => cases hlexer

/-- A call on the lexer at a place, an iterator of it or a step of such an iterator. -/
def CallsAt (session : Session) (place : Nat) (command : Command) : Prop :=
  (∃ name, command.lexer? = some name ∧ session.lexerNames.lookup name = some place)
    ∨ (∃ name iterator, command = .iterate name iterator
        ∧ session.lexerNames.lookup name = some place)
    ∨ ∃ iterator reader, command = .step iterator
        ∧ session.readers.lookup iterator = some reader ∧ reader.seat = place

/-- Commands that are about the lexer at a place and about nothing else. -/
def OnlyCallsAt (place : Nat) : Session → List Command → Prop
  | _, [] => True
  | session, command :: commands =>
    session.CallsAt place command ∧ OnlyCallsAt place (session.perform command).2 commands

theorem CallsAt.perform_of_closed {session : Session} {place : Nat} {seat : Seat}
    {command : Command} (h : session.CallsAt place command)
    (hseat : session.seats[place]? = some seat) (hclosed : seat.lexer.closed = true) :
    (session.perform command).2.seats = session.seats
      ∧ (session.perform command).2.collectors = session.collectors := by
  rcases h with ⟨name, hlexer, hname⟩ | ⟨name, iterator, rfl, hname⟩
      | ⟨iterator, reader, rfl, hreader, rfl⟩
  · rw [snd_perform_of_closed hlexer hname hseat hclosed]
    exact ⟨rfl, rfl⟩
  · have hbind : (session.perform (.iterate name iterator)).2
        = { session with readers := session.readers.bind iterator ⟨{}, place⟩ } := by
      simp only [perform, resolve_eq_ok_iff.2 hname]
    rw [hbind]
    exact ⟨rfl, rfl⟩
  · cases hfinished : reader.iterator.finished with
    | true =>
      rw [perform_step_of_finished hreader hfinished hseat]
      exact ⟨rfl, rfl⟩
    | false =>
      rw [perform_step_of_closed hreader hseat hclosed hfinished]
      exact ⟨rfl, rfl⟩

theorem OnlyCallsAt.performAll_of_closed {place : Nat} {seat : Seat} {session : Session}
    {commands : List Command} (h : OnlyCallsAt place session commands)
    (hseat : session.seats[place]? = some seat) (hclosed : seat.lexer.closed = true) :
    (session.performAll commands).seats = session.seats
      ∧ (session.performAll commands).collectors = session.collectors := by
  induction commands generalizing session with
  | nil => exact ⟨rfl, rfl⟩
  | cons command commands ih =>
    obtain ⟨hcommand, hcommands⟩ := h
    obtain ⟨hseats, hcollectors⟩ := hcommand.perform_of_closed hseat hclosed
    obtain ⟨hseats', hcollectors'⟩ := ih hcommands (by rw [hseats, hseat])
    exact ⟨hseats'.trans hseats, hcollectors'.trans hcollectors⟩

/-! ## From closing on -/

/-- The lexer at a place is closed.  What needs it open is refused, under each of its names, and
touches nothing; leaving it never fails; and of its iterators those that are not finished fail once
more. -/
structure ClosedAt (session : Session) (place : Nat) : Prop where
  refuses : ∀ command name operation, Command.needsOpen? command = some (name, operation) →
    session.lexerNames.lookup name = some place →
    session.perform command = (.error (.closed operation), session)
  leaves : ∀ name, session.lexerNames.lookup name = some place →
    session.perform (.leave name) = (.ok .done, session)
  stops : ∀ iterator reader, session.readers.lookup iterator = some reader → reader.seat = place →
    session.UsesUp iterator reader
      ∧ (reader.iterator.finished = false → session.perform (.step iterator)
          = (.error (.closed Lexer.skipping),
              { session with readers := session.readers.bind iterator ⟨⟨true⟩, place⟩ }))

section

variable {session : Session} {name : String} {place : Nat} {seat : Seat}

theorem closedAt_of_seat (hseat : session.seats[place]? = some seat)
    (hclosed : seat.lexer.closed = true) : session.ClosedAt place where
  refuses _ _ _ hneeds hname := perform_of_needsOpen hneeds hname hseat hclosed
  leaves _ hname := perform_leave_of_closed hname hseat hclosed
  stops := by
    rintro iterator reader hreader rfl
    exact ⟨usesUp_of_seat hreader hseat, perform_step_of_closed hreader hseat hclosed⟩

/-- Closing a lexer that is open and leaving one do the same. -/
theorem perform_ending (hname : session.lexerNames.lookup name = some place)
    (hseat : session.seats[place]? = some seat) {ending : Command}
    (hending : ending = .close name ∨ ending = .leave name)
    (hdone : (session.perform ending).1 = .ok .done) :
    (session.perform ending).2
      = session.updateSeat place { seat with lexer := seat.lexer.leave }
          (session.collectorAt seat.collector) := by
  rcases hending with rfl | rfl
  · have hcall : session.perform (.close name) = _ :=
      call_eq_of_lookup hname hseat (Call.moving Lexer.close)
    cases hclosed : seat.lexer.closed with
    | true =>
      rw [hcall, Call.moving, Lexer.close_of_closed hclosed] at hdone
      cases hdone
    | false =>
      rw [hcall, Call.moving, Lexer.close_of_open hclosed]
  · have hcall : session.perform (.leave name) = _ :=
      call_eq_of_lookup hname hseat (Call.moving fun lexer => .ok lexer.leave)
    rw [hcall]
    rfl

end

/-- **Closing is for good.**  A lexer of a session is closed or left, and then commands are
performed, whatever they ask for.  It stays closed and where it was, with the collector that it had;
its options stay unless one is set.  Every call that needs it open is refused and touches nothing,
leaving it never fails, and its iterators fail once unless they were finished before, and answer
that they are finished from then on.  Commands that are about this lexer only leave all lexers and
all collectors as they were.  A lexer that is made for one run is closed after it, however the run
ends. -/
theorem closed_for_good {session : Session} {name : String} {place : Nat} {seat : Seat}
    (hname : session.lexerNames.lookup name = some place)
    (hseat : session.seats[place]? = some seat) {ending : Command}
    (hending : ending = .close name ∨ ending = .leave name)
    (hdone : (session.perform ending).1 = .ok .done) (later : List Command) :
    let closed := (session.perform ending).2
    let now := closed.performAll later
    closed.seats[place]? = some { seat with lexer := { seat.lexer with closed := true } }
      ∧ (∃ moved, now.seats[place]? = some moved ∧ moved.collector = seat.collector
        ∧ moved.lexer.closed = true ∧ moved.lexer.cursor = seat.lexer.cursor
        ∧ ((∀ other change, .change other change ∉ later) →
            moved.lexer.options = seat.lexer.options))
      ∧ now.ClosedAt place
      ∧ (∀ iterator reader, session.readers.lookup iterator = some reader → reader.seat = place →
          reader.iterator.finished = true → (∀ other, .iterate other iterator ∉ later) →
          now.perform (.step iterator)
            = (.ok .finished, { now with readers := now.readers.bind iterator reader }))
      ∧ (OnlyCallsAt place closed later →
          now.seats = closed.seats ∧ now.collectors = closed.collectors)
      ∧ ∀ source options collector lexer held,
          Lexer.create source options collector = .ok (lexer, held) →
          ∃ run, Lexer.tokenize source options collector = .ok run ∧ run.lexer.closed = true
            ∧ ((∃ tokens, run.result = .ok tokens)
              ∨ (∃ diagnostic, run.result = .error (.lexical diagnostic))
              ∨ ∃ limit, run.result = .error (.limitReached limit)) := by
  intro closed now
  have hperform : closed = _ := perform_ending hname hseat hending hdone
  have hclosed : closed.seats[place]?
      = some { seat with lexer := { seat.lexer with closed := true } } := by
    rw [hperform]
    exact getElem?_seats_updateSeat_self hseat
  -- options are related under a condition on all the commands, which no single one of them shows
  have hlasting := Lexer.lasting_of_closed (∀ other change, .change other change ∉ later)
  have hevolves := hlasting.performAll closed later
    fun other change hmem lexer hclosed => ⟨hclosed, rfl, fun hnone => absurd hmem (hnone _ _)⟩
  obtain ⟨moved, hmoved, hcollector, hrelated⟩ := hevolves.relates hlasting place _ hclosed
  obtain ⟨hstays, hcursor, hoptions⟩ := hrelated rfl
  refine ⟨hclosed, ⟨moved, hmoved, hcollector, hstays, hcursor, hoptions⟩,
    closedAt_of_seat hmoved hstays, ?_, fun honly => honly.performAll_of_closed hclosed rfl,
    fun source options collector lexer held => Lexer.tokenize_closes⟩
  rintro iterator reader hreader rfl hfinished hkept
  have hending : ∀ other, ending ≠ .iterate other iterator := by
    rintro other rfl
    rcases hending with hending | hending <;> cases hending
  have hreader := lookup_perform_of_finished hreader hfinished hending
  exact perform_step_of_finished (lookup_performAll_of_finished hreader hfinished hkept) hfinished
    hmoved

/-- A lexer is closed between two iterators, of which one was finished at the end of the input;
then its options change and the collector is used by another lexer. -/
theorem closed_for_good_between_iterators :
    let session := ({} : Session).performAll
      [.collect "c" none, .create "a" (.text "x") {} (some "c"), .iterate "a" "i", .iterate "a" "j",
        .step "i", .step "i"]
    let later : List Command :=
      [.change "a" (.strict true), .create "b" (.text "@") {} (some "c"), .next "b",
        .skipBlanks "a"]
    let now := (session.perform (.close "a")).2.performAll later
    (session.perform (.close "a")).1 = .ok .done
      ∧ now.perform (.peek "a" 1) = (.error (.closed "peek"), now)
      ∧ now.perform (.step "i")
          = (.ok .finished, { now with readers := now.readers.bind "i" ⟨⟨true⟩, 0⟩ })
      ∧ (now.perform (.step "j")).1 = .error (.closed Lexer.skipping) := by
  intro session later now
  have hname : session.lexerNames.lookup "a" = some 0 := by decide +kernel
  obtain ⟨seat, hseat⟩ : ∃ seat, session.seats[0]? = some seat :=
    Option.isSome_iff_exists.1 (by decide +kernel)
  have hopen : (session.seats[0]?.map fun seat => seat.lexer.closed) = some false := by
    decide +kernel
  have hdone : (session.perform (.close "a")).1 = .ok .done := by
    have hcall : session.perform (.close "a") = _ :=
      call_eq_of_lookup hname hseat (Call.moving Lexer.close)
    rw [hseat] at hopen
    rw [hcall, Call.moving, Lexer.close_of_open (Option.some.inj hopen)]
  have hfirst : session.readers.lookup "i" = some ⟨⟨true⟩, 0⟩ :=
    eq_some_of_map_reader (by decide +kernel)
  have hsecond : now.readers.lookup "j" = some ⟨⟨false⟩, 0⟩ :=
    eq_some_of_map_reader (by decide +kernel)
  have hnow : now.lexerNames.lookup "a" = some 0 := by decide +kernel
  obtain ⟨-, -, hclosed, hfinished, -⟩ := closed_for_good hname hseat (.inl rfl) hdone later
  refine ⟨hdone, hclosed.refuses _ "a" _ rfl hnow, hfinished "i" _ hfirst rfl rfl ?_, ?_⟩
  · intro other hmem
    simp [later] at hmem
  · obtain ⟨-, hfails⟩ := hclosed.stops "j" _ hsecond rfl
    rw [hfails rfl]

end Session
end SourceLexer
