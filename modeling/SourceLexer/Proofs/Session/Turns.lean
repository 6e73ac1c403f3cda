import SourceLexer.Proofs.Calls
import SourceLexer.Proofs.Session.Seats

/-!
# Turns on one cursor

Iterators of one lexer and calls made on it directly share the cursor of that lexer.  Whoever takes
a token takes the next one, so nothing is lost and nothing comes twice, and it makes no difference
who takes it.

## Counting scans

A turn is a call for a token, a step of an iterator or the making of one.  Not every turn scans: it
may be about another lexer, and an iterator that is finished asks nothing of its lexer any more.
`Session.scanCount` counts the turns that do scan, and the count is all that has to be known of the
turns so far.  They leave the lexer as so many calls on a lexer of its own would have done
(`Session.performAll_turns`), because one turn that scans is one call and every other turn changes
nothing (`Session.perform_turn`).

## Iterators that are finished

Once an iterator has answered the end of the input or a failure it is finished, and it stays so
whatever commands come after it, as long as nobody gives its name to a new one
(`Session.lookup_performAll_of_finished`).  The lexer is not affected.
-/

namespace SourceLexer

/-! ## One step -/

namespace Iterator

/-- Whether an iterator is finished by what its call has come to. -/
def finishes : Except Failure Token → Bool
  | .error _ => true
  | .ok token => token.kind = .endOfInput

variable {iterator : Iterator}

/-- A finished iterator asks nothing of its lexer. -/
theorem step_of_finished (h : iterator.finished = true) (lexer : Lexer) (collector : Collector) :
    iterator.step lexer collector = ⟨.ok none, iterator, lexer, collector⟩ := by
  simp [step, h]

/-- Of an iterator that is not finished a step is a call. -/
theorem step_of_unfinished (h : iterator.finished = false) (lexer : Lexer)
    (collector : Collector) :
    iterator.step lexer collector =
      ⟨(lexer.next collector).outcome.map some, ⟨finishes (lexer.next collector).outcome⟩,
        (lexer.next collector).lexer, (lexer.next collector).collector⟩ := by
  cases houtcome : (lexer.next collector).outcome <;> simp [step, h, houtcome, finishes] <;> rfl

end Iterator

namespace Lexer

/-- A call leaves the options as they are. -/
theorem options_next (lexer : Lexer) (collector : Collector) :
    (lexer.next collector).lexer.options = lexer.options := by
  cases hclosed : lexer.closed with
  | true => rw [next_of_closed hclosed]
  | false => rw [next_of_open hclosed]

/-- Where the options stay, a call finds what the call before it has left. -/
theorem stateBefore_succ_of_const (options : Options) (lexer : Lexer) (collector : Collector)
    (call : Nat) :
    stateBefore (fun _ => options) lexer collector (call + 1) =
      ((callAt (fun _ => options) lexer collector call).lexer,
        (callAt (fun _ => options) lexer collector call).collector) := by
  have hoptions : (callAt (fun _ => options) lexer collector call).lexer.options = options := by
    rw [callAt, options_next, options_stateBefore]
  rw [stateBefore_succ]
  generalize callAt (fun _ => options) lexer collector call = step at hoptions
  obtain ⟨outcome, ⟨cursor, found, closed⟩, collector⟩ := step
  obtain rfl : found = options := hoptions
  rfl

end Lexer

namespace Session

/-! ## Turns -/

/-- A command that takes a token, or that makes an iterator to take tokens with. -/
inductive Command.TakesTurn : Command → Prop where
  | next (name : String) : TakesTurn (.next name)
  | iterate (name iterator : String) : TakesTurn (.iterate name iterator)
  | step (iterator : String) : TakesTurn (.step iterator)

/-- Whether a command scans with the lexer at a place: it calls for a token, or it is a step of an
iterator that is not finished. -/
def scansAt (session : Session) (place : Nat) : Command → Bool
  | .next name => session.lexerNames.lookup name = some place
  | .step iterator => (session.readers.lookup iterator).any fun reader =>
      reader.seat = place ∧ reader.iterator.finished = false
  | _ => false

/-- How many of the commands scan with the lexer at a place. -/
def scanCount (place : Nat) : Session → List Command → Nat
  | _, [] => 0
  | session, command :: commands =>
    (if session.scansAt place command then 1 else 0)
      + scanCount place (session.perform command).2 commands

/-- The lexer at a place, with its collector. -/
def lexerAt? (session : Session) (place : Nat) : Option (Lexer × Collector) :=
  session.seats[place]?.map fun seat => (seat.lexer, session.collectorAt seat.collector)

/-- The lexer at a place reports to a collector that no other lexer reports to. -/
structure Alone (session : Session) (place collector : Nat) : Prop where
  reports : session.reportsTo? place = some collector
  collector_lt : collector < session.collectors.size
  only : ∀ other, session.reportsTo? other = some collector → other = place

/-- As long as names and places stay, nobody else comes to report there. -/
theorem Alone.of_samePlaces {first second : Session} {place collector : Nat}
    (h : first.Alone place collector) (hsame : first.SamePlaces second) :
    second.Alone place collector where
  reports := (hsame.reportsTo?_eq place).trans h.reports
  collector_lt := hsame.size_eq ▸ h.collector_lt
  only other hother := h.only other ((hsame.reportsTo?_eq other).symm.trans hother)

section

variable {session : Session} {place other slot : Nat} {seat : Seat}

theorem lexerAt?_of_seat (hseat : session.seats[place]? = some seat) :
    session.lexerAt? place = some (seat.lexer, session.collectorAt seat.collector) := by
  rw [lexerAt?, hseat]
  rfl

/-- Of the lexer at the place itself the update is what is there afterwards. -/
theorem Alone.lexerAt?_updateSeat_self (h : session.Alone place slot)
    (hseat : session.seats[place]? = some seat) (lexer : Lexer) (collector : Collector) :
    (session.updateSeat place { seat with lexer := lexer } collector).lexerAt? place
      = some (lexer, collector) := by
  have hslot : seat.collector = slot :=
    Option.some.inj ((reportsTo?_of_seat hseat).symm.trans h.reports)
  have hinside : seat.collector < session.collectors.size := hslot ▸ h.collector_lt
  rw [lexerAt?_of_seat (getElem?_seats_updateSeat_self hseat)]
  rw [collectorAt_of_getElem? (@getElem?_collectors_updateSeat_self session place
    { seat with lexer := lexer } collector hinside)]

/-- Another lexer reports elsewhere, so its updates do not show here. -/
theorem Alone.lexerAt?_updateSeat_of_ne (h : session.Alone place slot)
    (hseat : session.seats[other]? = some seat) (hother : other ≠ place) (lexer : Lexer)
    (collector : Collector) :
    (session.updateSeat other { seat with lexer := lexer } collector).lexerAt? place
      = session.lexerAt? place := by
  obtain ⟨found, hfound, hslot⟩ := exists_seat_of_reportsTo? h.reports
  have helsewhere : seat.collector ≠ found.collector := by
    intro hsame
    refine hother (h.only other ?_)
    rw [reportsTo?_of_seat hseat, hsame, hslot]
  have hsame : (session.updateSeat other { seat with lexer := lexer } collector).collectorAt
      found.collector = session.collectorAt found.collector := by
    simp only [collectorAt, Array.getD_eq_getD_getElem?]
    rw [@getElem?_collectors_updateSeat_of_ne session other found.collector
      { seat with lexer := lexer } collector helsewhere]
  have hkept : (session.updateSeat other { seat with lexer := lexer } collector).seats[place]?
      = some found := by
    rw [getElem?_seats_updateSeat_of_ne hother, hfound]
  rw [lexerAt?_of_seat hkept, lexerAt?_of_seat hfound, hsame]

theorem Alone.lexerAt?_call_of_ne (h : session.Alone place slot) {name : String}
    (hname : session.lexerNames.lookup name ≠ some place) (call : Call) :
    (session.call name call).2.lexerAt? place = session.lexerAt? place := by
  unfold Session.call
  split
  · rfl
  · next other hresolve =>
    have hother : other ≠ place := by
      rintro rfl
      exact hname (resolve_eq_ok_iff.1 hresolve)
    unfold Session.callAt
    split
    · rfl
    · next seat hseat => exact h.lexerAt?_updateSeat_of_ne hseat hother _ _

theorem Alone.lexerAt?_step_of_ne (h : session.Alone place slot) {iterator : String}
    (hreader : ∀ reader, session.readers.lookup iterator = some reader → reader.seat ≠ place) :
    (session.step iterator).2.lexerAt? place = session.lexerAt? place := by
  unfold Session.step
  split
  · rfl
  · next reader hresolve =>
    have hother : reader.seat ≠ place := hreader reader (resolve_eq_ok_iff.1 hresolve)
    split
    · rfl
    · next seat hseat => exact h.lexerAt?_updateSeat_of_ne hseat hother _ _

/-! ## What one turn does -/

variable {lexer : Lexer} {collector : Collector}

/-- A turn, beside a call on the lexer as it stands. -/
structure Turn (session : Session) (place : Nat) (lexer : Lexer) (collector : Collector)
    (command : Command) : Prop where
  scans : session.scansAt place command = true →
    (session.perform command).1 = (lexer.next collector).outcome.map .token
      ∧ (session.perform command).2.lexerAt? place
          = some ((lexer.next collector).lexer, (lexer.next collector).collector)
  rests : session.scansAt place command = false →
    (session.perform command).2.lexerAt? place = some (lexer, collector)

theorem Alone.turn_next (h : session.Alone place slot)
    (hlexer : session.lexerAt? place = some (lexer, collector)) (name : String) :
    session.Turn place lexer collector (.next name) := by
  by_cases hname : session.lexerNames.lookup name = some place
  · obtain ⟨seat, hseat, -⟩ := exists_seat_of_reportsTo? h.reports
    rw [lexerAt?_of_seat hseat] at hlexer
    obtain ⟨rfl, rfl⟩ := Prod.mk.inj (Option.some.inj hlexer)
    have hcall : session.perform (.next name) = _ := call_eq_of_lookup hname hseat Call.next
    refine ⟨fun _ => ?_, fun hrests => ?_⟩
    · rw [hcall]
      exact ⟨rfl, h.lexerAt?_updateSeat_self hseat _ _⟩
    · simp [scansAt, hname] at hrests
  · refine ⟨fun hscans => ?_, fun _ => ?_⟩
    · simp [scansAt, hname] at hscans
    · exact (h.lexerAt?_call_of_ne hname Call.next).trans hlexer

theorem Alone.turn_step (h : session.Alone place slot)
    (hlexer : session.lexerAt? place = some (lexer, collector)) (iterator : String) :
    session.Turn place lexer collector (.step iterator) := by
  by_cases hreads : ∃ reader, session.readers.lookup iterator = some reader ∧ reader.seat = place
  · obtain ⟨⟨iterating, _⟩, hreader, rfl⟩ := hreads
    obtain ⟨seat, hseat, -⟩ := exists_seat_of_reportsTo? h.reports
    rw [lexerAt?_of_seat hseat] at hlexer
    obtain ⟨rfl, rfl⟩ := Prod.mk.inj (Option.some.inj hlexer)
    have hstep : session.perform (.step iterator) = _ := step_eq_of_lookup hreader hseat
    cases hfinished : iterating.finished with
    | false =>
      -- the iterator calls the lexer as a direct call would
      rw [Iterator.step_of_unfinished hfinished] at hstep
      refine ⟨fun _ => ?_, fun hrests => ?_⟩
      · rw [hstep]
        refine ⟨?_, h.lexerAt?_updateSeat_self hseat _ _⟩
        cases (seat.lexer.next (session.collectorAt seat.collector)).outcome <;> rfl
      · simp [scansAt, hreader, hfinished] at hrests
    | true =>
      rw [Iterator.step_of_finished hfinished] at hstep
      refine ⟨fun hscans => ?_, fun _ => ?_⟩
      · simp [scansAt, hreader, hfinished] at hscans
      · rw [hstep]
        exact h.lexerAt?_updateSeat_self hseat _ _
  · have hother : ∀ reader, session.readers.lookup iterator = some reader →
        reader.seat ≠ place := fun reader hreader hseat => hreads ⟨reader, hreader, hseat⟩
    refine ⟨fun hscans => ?_, fun _ => ?_⟩
    · rw [scansAt, Option.any_eq_true] at hscans
      obtain ⟨reader, hreader, hscans⟩ := hscans
      exact absurd (of_decide_eq_true hscans).1 (hother reader hreader)
    · exact (h.lexerAt?_step_of_ne hother).trans hlexer

/-- One turn that scans is one call, and no other turn touches the lexer or its collector. -/
theorem Alone.perform_turn (h : session.Alone place slot)
    (hlexer : session.lexerAt? place = some (lexer, collector)) {command : Command}
    (hturn : command.TakesTurn) : session.Turn place lexer collector command := by
  cases hturn with
  | next name => exact h.turn_next hlexer name
  | step iterator => exact h.turn_step hlexer iterator
  | iterate name iterator =>
    refine ⟨by simp [scansAt], fun _ => ?_⟩
    rw [← hlexer]
    simp only [perform]
    split <;> rfl

theorem Command.TakesTurn.makesPlace {command : Command} (h : command.TakesTurn) :
    command.makesPlace = false := by
  cases h <;> rfl

/-! ## Any number of turns -/

/-- Turns leave the lexer as so many calls as there were scans. -/
theorem Alone.performAll_turns {options : Options} {count : Nat} {commands : List Command}
    (h : session.Alone place slot)
    (hlexer : session.lexerAt? place
      = some (Lexer.stateBefore (fun _ => options) lexer collector count))
    (hturns : ∀ command ∈ commands, command.TakesTurn) :
    (session.performAll commands).Alone place slot
      ∧ (session.performAll commands).lexerAt? place
        = some (Lexer.stateBefore (fun _ => options) lexer collector
            (count + scanCount place session commands)) := by
  induction commands generalizing session count with
  | nil => exact ⟨h, hlexer⟩
  | cons command commands ih =>
    have hcommand := hturns command List.mem_cons_self
    have halone := h.of_samePlaces (samePlaces_perform hcommand.makesPlace session)
    have hrest : ∀ command ∈ commands, command.TakesTurn :=
      fun command hmem => hturns command (List.mem_cons_of_mem _ hmem)
    have hturn := h.perform_turn hlexer hcommand
    rw [scanCount, ← Nat.add_assoc]
    refine ih halone ?_ hrest
    cases hscans : session.scansAt place command with
    | true =>
      rw [if_pos rfl, Lexer.stateBefore_succ_of_const]
      exact (hturn.scans hscans).2
    | false => exact hturn.rests hscans

end

/-! ## Finished iterators -/

section

variable {session : Session} {iterator : String} {reader : Reader}

theorem readers_call (name : String) (call : Call) :
    (session.call name call).2.readers = session.readers := by
  unfold Session.call
  split
  · rfl
  · unfold Session.callAt
    split <;> rfl

theorem readers_onCollector (target : Target)
    (act : Collector → Except Failure Reply × Collector) :
    (session.onCollector target act).2.readers = session.readers := by
  unfold Session.onCollector
  split <;> rfl

/-- Iterators are told apart by whether they are finished and by what they read from. -/
theorem eq_some_of_map_reader {found : Option Reader} {finished : Bool} {place : Nat}
    (h : found.map (fun reader => (reader.iterator.finished, reader.seat))
      = some (finished, place)) : found = some ⟨⟨finished⟩, place⟩ := by
  obtain ⟨⟨⟨_⟩, _⟩, rfl, hpair⟩ := Option.map_eq_some_iff.1 h
  cases hpair
  rfl

/-- What a step answers if it finishes the iterator, or if that was finished before. -/
def Reply.finishes : Except Failure Reply → Bool
  | .error _ => true
  | .ok (.token found) => found.kind = .endOfInput
  | .ok .finished => true
  | .ok _ => false

/-- A step of a finished iterator changes nothing. -/
theorem perform_step_of_finished (hreader : session.readers.lookup iterator = some reader)
    (hfinished : reader.iterator.finished = true) {seat : Seat}
    (hseat : session.seats[reader.seat]? = some seat) :
    session.perform (.step iterator)
      = (.ok .finished, { session with readers := session.readers.bind iterator reader }) := by
  have hstep : session.perform (.step iterator) = _ := step_eq_of_lookup hreader hseat
  rw [Iterator.step_of_finished hfinished] at hstep
  rw [hstep]
  refine Prod.ext rfl ?_
  exact congrArg (fun same : Session =>
    { same with readers := session.readers.bind iterator reader }) (updateSeat_self hseat)

/-- An iterator has its answers from the one lexer, and its answer tells whether it is finished. -/
theorem lookup_perform_step (hreader : session.readers.lookup iterator = some reader) {seat : Seat}
    (hseat : session.seats[reader.seat]? = some seat) :
    (session.perform (.step iterator)).2.readers.lookup iterator
      = some ⟨⟨Reply.finishes (session.perform (.step iterator)).1⟩, reader.seat⟩ := by
  cases hfinished : reader.iterator.finished with
  | true =>
    rw [perform_step_of_finished hreader hfinished hseat]
    refine Bindings.lookup_bind_self.trans ?_
    show some reader = some ⟨⟨true⟩, reader.seat⟩
    rw [← hfinished]
  | false =>
    have hstep : session.perform (.step iterator) = _ := step_eq_of_lookup hreader hseat
    rw [Iterator.step_of_unfinished hfinished] at hstep
    rw [hstep]
    refine Bindings.lookup_bind_self.trans ?_
    cases (seat.lexer.next (session.collectorAt seat.collector)).outcome <;> rfl

/-- A step of an iterator is nothing to the others. -/
theorem lookup_perform_step_of_ne {other : String} (hother : other ≠ iterator) :
    (session.perform (.step iterator)).2.readers.lookup other = session.readers.lookup other := by
  show (session.step iterator).2.readers.lookup other = _
  unfold Session.step
  split
  · rfl
  · split
    · rfl
    · exact Bindings.lookup_bind_of_ne hother

theorem lookup_perform_of_finished (hreader : session.readers.lookup iterator = some reader)
    (hfinished : reader.iterator.finished = true) {command : Command}
    (hkept : ∀ name, command ≠ .iterate name iterator) :
    (session.perform command).2.readers.lookup iterator = some reader := by
  cases command with
  | create name source options collector =>
    rw [← hreader]
    simp only [perform, create]
    split
    · split <;> rfl
    · split
      · rfl
      · split <;> rfl
  | next | advance | peek | skipBlanks | close | enter | leave | change | drain =>
    exact (congrArg (List.lookup iterator) (readers_call _ _)).trans hreader
  | iterate name other =>
    have hother : iterator ≠ other := by
      rintro rfl
      exact hkept name rfl
    rw [← hreader]
    simp only [perform]
    split
    · rfl
    · exact Bindings.lookup_bind_of_ne hother
  | step other =>
    by_cases hother : iterator = other
    · subst hother
      -- that an iterator has a lexer to read from is not known here, and not needed
      cases hseat : session.seats[reader.seat]? with
      | none =>
        have hresolve : resolve session.readers iterator = .ok reader := resolve_eq_ok_iff.2 hreader
        simp only [perform, Session.step, hresolve, hseat]
        exact hreader
      | some seat =>
        rw [perform_step_of_finished hreader hfinished hseat]
        exact Bindings.lookup_bind_self
    · exact (lookup_perform_step_of_ne hother).trans hreader
  | collect name limit =>
    rw [← hreader]
    simp only [perform]
    split <;> rfl
  | report name diagnostic =>
    cases diagnostic with
    | error failure => exact hreader
    | ok diagnostic =>
      exact (congrArg (List.lookup iterator) (readers_onCollector _ _)).trans hreader
  | hasErrors | errorCount | entries | summary | clear | tokenize =>
    exact (congrArg (List.lookup iterator) (readers_onCollector _ _)).trans hreader

/-- A finished iterator stays so, until its name is given to a new one. -/
theorem lookup_performAll_of_finished (hreader : session.readers.lookup iterator = some reader)
    (hfinished : reader.iterator.finished = true) {commands : List Command}
    (hkept : ∀ name, .iterate name iterator ∉ commands) :
    (session.performAll commands).readers.lookup iterator = some reader := by
  induction commands generalizing session with
  | nil => exact hreader
  | cons command commands ih =>
    have hcommand : ∀ name, command ≠ .iterate name iterator := by
      rintro name rfl
      exact hkept name List.mem_cons_self
    exact ih (lookup_perform_of_finished hreader hfinished hcommand)
      fun name hmem => hkept name (List.mem_cons_of_mem _ hmem)

/-- How an iterator is used up.  An answer that is a failure or the end of the input finishes it,
for good; then it answers that it is finished and changes nothing.  Other iterators do not
notice. -/
structure UsesUp (session : Session) (iterator : String) (reader : Reader) : Prop where
  finished : reader.iterator.finished = true →
    session.perform (.step iterator)
      = (.ok .finished, { session with readers := session.readers.bind iterator reader })
  after : (session.perform (.step iterator)).2.readers.lookup iterator
    = some ⟨⟨Reply.finishes (session.perform (.step iterator)).1⟩, reader.seat⟩
  others : ∀ other, other ≠ iterator →
    (session.perform (.step iterator)).2.readers.lookup other = session.readers.lookup other
  forGood : Reply.finishes (session.perform (.step iterator)).1 = true →
    ∀ later : List Command, (∀ name, .iterate name iterator ∉ later) →
      let last := (session.perform (.step iterator)).2.performAll later
      last.perform (.step iterator)
        = (.ok .finished,
            { last with readers := last.readers.bind iterator ⟨⟨true⟩, reader.seat⟩ })

theorem usesUp_of_seat (hreader : session.readers.lookup iterator = some reader) {seat : Seat}
    (hseat : session.seats[reader.seat]? = some seat) : session.UsesUp iterator reader where
  finished hfinished := perform_step_of_finished hreader hfinished hseat
  after := lookup_perform_step hreader hseat
  others _ hother := lookup_perform_step_of_ne hother
  forGood hfinishes later hkept := by
    intro last
    have hafter := lookup_perform_step hreader hseat
    rw [hfinishes] at hafter
    obtain ⟨moved, hmoved, -⟩ :=
      session.leadsTo_performAll (.step iterator :: later) reader.seat seat hseat
    exact perform_step_of_finished (lookup_performAll_of_finished hafter rfl hkept) rfl hmoved

end

/-! ## A lexer of its own -/

/-- Nobody reports yet to the collector that is named, if one is. -/
def Unshared (session : Session) (given : Option String) : Prop :=
  ∀ collector slot, given = some collector →
    session.collectorNames.lookup collector = some slot →
    ∀ place, session.reportsTo? place ≠ some slot

/-- A new lexer is alone with its collector if that is new as well, or if nobody has reported to it
before.  It is in the state in which a row of calls begins. -/
theorem exists_alone_of_create {session : Session} {name : String} {source : Argument}
    {options : Options} {given : Option String} (hsound : session.Sound)
    (hmade : (session.perform (.create name source options given)).1 = .ok .done)
    (hunshared : session.Unshared given) :
    ∃ lexer held slot,
      Lexer.create source options (given.bind session.collector?) = .ok (lexer, held)
        ∧ (session.perform (.create name source options given)).2.lexerNames.lookup name
          = some session.seats.size
        ∧ (session.perform (.create name source options given)).2.Alone session.seats.size slot
        ∧ (session.perform (.create name source options given)).2.lexerAt? session.seats.size
          = some (Lexer.stateBefore (fun _ => options) lexer held 0) := by
  obtain ⟨base, lexer, held, slot, hcreate, hadded, hheld, hnone, hsome⟩ := create_eq_addLexer hmade
  have hperform : (session.perform (.create name source options given)).2 = _ := hadded
  obtain ⟨hseats, hslot, hnobody⟩ : base.seats = session.seats ∧ slot < base.collectors.size
      ∧ ∀ place, session.reportsTo? place ≠ some slot := by
    cases given with
    | none =>
      obtain ⟨rfl, rfl⟩ := hnone rfl
      refine ⟨rfl, by simp [addCollector], fun place hplace => ?_⟩
      obtain ⟨seat, hseat, hcollector⟩ := exists_seat_of_reportsTo? hplace
      have hlt := hsound.seat_lt place seat hseat
      simp only at hcollector
      omega
    | some collector =>
      obtain ⟨rfl, hlookup⟩ := hsome collector rfl
      exact ⟨rfl, hsound.name_lt collector slot hlookup, hunshared collector slot rfl hlookup⟩
  have hreports : ∀ place, (addLexer base name lexer slot).reportsTo? place
      = if place = session.seats.size then some slot else session.reportsTo? place := by
    intro place
    rw [reportsTo?_addLexer, hseats, reportsTo?, hseats]
    rfl
  obtain ⟨hname, hseat⟩ := base.lookup_addLexer name lexer slot
  rw [hseats] at hname hseat
  rw [hperform]
  refine ⟨lexer, held, slot, hcreate, hname, ⟨?_, hslot, ?_⟩, ?_⟩
  · rw [hreports, if_pos rfl]
  · intro other hother
    by_contra hne
    rw [hreports, if_neg hne] at hother
    exact hnobody other hother
  · obtain ⟨text, rfl⟩ := Lexer.exists_ofText_of_create hcreate
    rw [lexerAt?_of_seat hseat]
    exact congrArg some (Prod.ext rfl hheld)

/-- **Iterators take turns on one cursor.**  A lexer is made in a session, with a collector that no
other lexer reports to, and then any iterators and any direct calls take turns, in any order.  The
next turn that scans has exactly the outcome of the call of that number in a row of calls on such a
lexer alone, whoever takes it, and no other turn touches the lexer or its collector.  An iterator is
finished right after it has answered the end of the input or a failure, for good, while everybody
else goes on. -/
theorem turns_in_order {setup : List Command} {name source : String} {options : Options}
    {given : Option String}
    (hmade : ((({} : Session).performAll setup).perform
      (.create name (.text source) options given)).1 = .ok .done)
    (hunshared : (({} : Session).performAll setup).Unshared given)
    {earlier : List Command} (hearlier : ∀ command ∈ earlier, command.TakesTurn) :
    let before := ({} : Session).performAll setup
    let made := (before.perform (.create name (.text source) options given)).2
    let place := before.seats.size
    let now := made.performAll earlier
    now.lexerNames.lookup name = some place
      ∧ (∃ lexer held,
      Lexer.create (.text source) options (given.bind before.collector?) = .ok (lexer, held)
        ∧ ∀ command : Command, command.TakesTurn →
          let call := Lexer.callAt (fun _ => options) lexer held (scanCount place made earlier)
          (now.scansAt place command = true →
            (now.perform command).1 = call.outcome.map .token
              ∧ (now.perform command).2.lexerAt? place = some (call.lexer, call.collector))
          ∧ (now.scansAt place command = false →
            (now.perform command).2.lexerAt? place = now.lexerAt? place))
      ∧ ∀ iterator reader, now.readers.lookup iterator = some reader → reader.seat = place →
          now.UsesUp iterator reader := by
  intro before made place now
  obtain ⟨lexer, held, slot, hcreate, hname, halone, hfirst⟩ :=
    exists_alone_of_create (sound_performAll setup) hmade hunshared
  have hsame : made.SamePlaces now :=
    samePlaces_performAll (fun command hmem => (hearlier command hmem).makesPlace) made
  obtain ⟨halone, hnow⟩ := halone.performAll_turns hfirst hearlier
  rw [Nat.zero_add] at hnow
  refine ⟨?_, ⟨lexer, held, hcreate, fun command hcommand => ?_⟩, ?_⟩
  · rw [hsame.lexerNames_eq]
    exact hname
  · have hturn := halone.perform_turn hnow hcommand
    exact ⟨hturn.scans, fun hrests => (hturn.rests hrests).trans hnow.symm⟩
  · intro iterator reader hreader hplace
    obtain ⟨seat, hseat, -⟩ := exists_seat_of_reportsTo? halone.reports
    have hseat : now.seats[reader.seat]? = some seat := by
      rw [hplace]
      exact hseat
    exact usesUp_of_seat hreader hseat

/-- The first iterator fails at the limit of the collector and is finished; a second one, which
came later, goes on behind the bad text. -/
theorem turns_in_order_past_limit :
    let before := ({} : Session).performAll [.collect "c" (some 2)]
    let made := before.perform (.create "a" (.text "@ # x") {} (some "c"))
    let now := made.2.performAll
      [.iterate "a" "i", .step "i", .step "i", .iterate "a" "j"]
    made.1 = .ok .done ∧ before.Unshared (some "c")
      ∧ now.readers.lookup "i" = some ⟨⟨true⟩, 0⟩ ∧ now.UsesUp "i" ⟨⟨true⟩, 0⟩
      ∧ now.scansAt 0 (.step "j") = true
      ∧ (now.perform (.step "j")).1
          = .ok (.token ⟨.identifier, some "x", 1, 5, "<input>"⟩) := by
  intro before made now
  have hmade : made.1 = .ok .done := rfl
  have hunshared : before.Unshared (some "c") := by
    intro collector slot _ _ place hplace
    cases hplace
  have hearlier : ∀ command ∈
      [Command.iterate "a" "i", .step "i", .step "i", .iterate "a" "j"], command.TakesTurn := by
    simp only [List.mem_cons, List.not_mem_nil, or_false]
    rintro command (rfl | rfl | rfl | rfl)
    · exact .iterate "a" "i"
    · exact .step "i"
    · exact .step "i"
    · exact .iterate "a" "j"
  obtain ⟨-, ⟨lexer, held, hcreate, hturns⟩, hused⟩ := turns_in_order hmade hunshared hearlier
  have hreader : now.readers.lookup "i" = some ⟨⟨true⟩, 0⟩ :=
    eq_some_of_map_reader (by decide +kernel)
  have hscans : now.scansAt 0 (.step "j") = true := by decide +kernel
  obtain ⟨houtcome, -⟩ := (hturns (.step "j") (.step "j")).1 hscans
  obtain ⟨rfl, rfl⟩ : lexer = Lexer.fresh {} "@ # x".toList ∧ held = ⟨#[], some 2⟩ := by
    cases hcreate
    exact ⟨rfl, rfl⟩
  have hcall : (Lexer.callAt (fun _ => {}) (Lexer.fresh {} "@ # x".toList) ⟨#[], some 2⟩
      (scanCount 0 made.2 [.iterate "a" "i", .step "i", .step "i", .iterate "a" "j"])).outcome
        = .ok ⟨.identifier, some "x", 1, 5, "<input>"⟩ := by decide +kernel
  refine ⟨hmade, hunshared, hreader, hused "i" _ hreader rfl, hscans, houtcome.trans ?_⟩
  exact congrArg (Except.map Reply.token) hcall

end Session
end SourceLexer
