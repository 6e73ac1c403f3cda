import SourceLexer.Session.Command

/-!
# Names and places

What a command finds under a name, and what it leaves in a place.  Names are bound anew and
forgotten; a place keeps what stands in it until something is put there.  With these facts a command
that meets a lexer or a collector is the call that it makes, and nothing more has to be known about
arrays and lists of names.

Where lexers have places as well, the place of a collector is called a slot.

## What most commands leave alone

Only two commands make something that takes a new place.  All others leave it at what names stand
for and at who reports where: `Session.SamePlaces` compares two sessions in this respect.  So a row
of such commands can be told from the session in front of it which lexers and collectors it will be
about.
-/

namespace SourceLexer

/-! ## Names -/

namespace Bindings

variable {α : Type} {bindings : Bindings α} {name other : String} {value : α}

@[simp] theorem lookup_bind_self : (bindings.bind name value).lookup name = some value := by
  simp [bind]

theorem lookup_unbind_self (bindings : Bindings α) (name : String) :
    (bindings.unbind name).lookup name = none := by
  rw [unbind, List.lookup_eq_none_iff]
  intro binding hmem
  have hbound : binding.1 ≠ name := by simpa using (List.mem_filter.1 hmem).2
  exact bne_iff_ne.2 hbound.symm

/-- Forgetting a name leaves the others as they are. -/
theorem lookup_unbind_of_ne (hother : other ≠ name) :
    (bindings.unbind name).lookup other = bindings.lookup other := by
  induction bindings with
  | nil => rfl
  | cons binding bindings ih =>
    obtain ⟨bound, value⟩ := binding
    by_cases hbound : bound = name
    · subst hbound
      have hskip : (unbind ((bound, value) :: bindings) bound) = unbind bindings bound := by
        simp [unbind]
      rw [hskip, ih, List.lookup_cons, beq_false_of_ne hother]
    · have hkeep : unbind ((bound, value) :: bindings) name
          = (bound, value) :: unbind bindings name := by
        simp [unbind, hbound]
      rw [hkeep, List.lookup_cons, List.lookup_cons, ih]

theorem lookup_bind_of_ne (hother : other ≠ name) :
    (bindings.bind name value).lookup other = bindings.lookup other := by
  rw [bind, List.lookup_cons, beq_false_of_ne hother]
  exact lookup_unbind_of_ne hother

/-- What a name stands for after another was forgotten, it stood for before. -/
theorem lookup_of_lookup_unbind (h : (bindings.unbind name).lookup other = some value) :
    bindings.lookup other = some value := by
  by_cases hother : other = name
  · rw [hother, lookup_unbind_self] at h
    cases h
  · rwa [lookup_unbind_of_ne hother] at h

end Bindings

namespace Session

theorem resolve_eq_ok_iff {α : Type} {bindings : Bindings α} {name : String} {value : α} :
    resolve bindings name = .ok value ↔ bindings.lookup name = some value := by
  unfold resolve
  cases bindings.lookup name <;> simp

theorem resolve_of_none {α : Type} {bindings : Bindings α} {name : String}
    (h : bindings.lookup name = none) : resolve bindings name = .error (.unknownName name) := by
  rw [resolve, h]

/-! ## Places -/

/-- Writing into a place what stands there already changes nothing. -/
theorem setIfInBounds_eq_self {α : Type} {entries : Array α} {place : Nat} {value : α}
    (h : ∀ old, entries[place]? = some old → old = value) :
    entries.setIfInBounds place value = entries := by
  refine Array.ext_getElem? fun other => ?_
  by_cases hother : place = other
  · subst hother
    rw [Array.getElem?_setIfInBounds_self]
    cases hfound : entries[place]? with
    | none =>
      have houtside : entries.size ≤ place := Array.getElem?_eq_none_iff.1 hfound
      rw [if_neg (by omega)]
    | some old =>
      have hinside : place < entries.size := (Array.getElem?_eq_some_iff.1 hfound).1
      rw [if_pos hinside, h old hfound]
  · rw [Array.getElem?_setIfInBounds_ne hother]

/-- The place of the collector that the lexer at a place reports to. -/
def reportsTo? (session : Session) (place : Nat) : Option Nat :=
  session.seats[place]?.map Seat.collector

section

variable {session : Session} {name : String} {place other : Nat} {seat moved : Seat}
  {collector : Collector}

theorem collectorAt_of_getElem? (h : session.collectors[place]? = some collector) :
    session.collectorAt place = collector := by
  rw [collectorAt, Array.getD_eq_getD_getElem?, h]
  rfl

theorem getElem?_collectors (h : place < session.collectors.size) :
    session.collectors[place]? = some (session.collectorAt place) := by
  rw [collectorAt, Array.getD_eq_getD_getElem?, Array.getElem?_eq_getElem h]
  rfl

theorem getElem?_seats_updateSeat_self (hseat : session.seats[place]? = some seat) :
    (session.updateSeat place moved collector).seats[place]? = some moved :=
  Array.getElem?_setIfInBounds_self_of_lt (Array.getElem?_eq_some_iff.1 hseat).1

theorem getElem?_seats_updateSeat_of_ne (hother : place ≠ other) :
    (session.updateSeat place moved collector).seats[other]? = session.seats[other]? :=
  Array.getElem?_setIfInBounds_ne hother

theorem getElem?_collectors_updateSeat_self (h : moved.collector < session.collectors.size) :
    (session.updateSeat place moved collector).collectors[moved.collector]? = some collector :=
  Array.getElem?_setIfInBounds_self_of_lt h

theorem getElem?_collectors_updateSeat_of_ne (hother : moved.collector ≠ other) :
    (session.updateSeat place moved collector).collectors[other]? = session.collectors[other]? :=
  Array.getElem?_setIfInBounds_ne hother

/-- Putting a lexer and its collector where they are changes nothing. -/
theorem updateSeat_self (hseat : session.seats[place]? = some seat) :
    session.updateSeat place seat (session.collectorAt seat.collector) = session := by
  have hseats : session.seats.setIfInBounds place seat = session.seats := by
    refine setIfInBounds_eq_self fun old hold => ?_
    exact Option.some.inj (hold.symm.trans hseat)
  have hcollectors : session.collectors.setIfInBounds seat.collector
      (session.collectorAt seat.collector) = session.collectors := by
    refine setIfInBounds_eq_self fun old hold => ?_
    exact (collectorAt_of_getElem? hold).symm
  rw [updateSeat, hseats, hcollectors]

theorem reportsTo?_of_seat (hseat : session.seats[place]? = some seat) :
    session.reportsTo? place = some seat.collector := by
  rw [reportsTo?, hseat]
  rfl

theorem exists_seat_of_reportsTo? {slot : Nat} (h : session.reportsTo? place = some slot) :
    ∃ seat, session.seats[place]? = some seat ∧ seat.collector = slot :=
  Option.map_eq_some_iff.1 h

/-! ## Commands that find what they are about -/

/-- A call on a lexer that has a name. -/
theorem call_eq_of_lookup (hname : session.lexerNames.lookup name = some place)
    (hseat : session.seats[place]? = some seat) (call : Call) :
    session.call name call =
      ((call seat.lexer (session.collectorAt seat.collector)).outcome,
        session.updateSeat place
          { seat with lexer := (call seat.lexer (session.collectorAt seat.collector)).lexer }
          (call seat.lexer (session.collectorAt seat.collector)).collector) := by
  have hresolve : resolve session.lexerNames name = .ok place := resolve_eq_ok_iff.2 hname
  simp only [Session.call, hresolve, callAt, hseat]

/-- A step of an iterator that has a name. -/
theorem step_eq_of_lookup {reader : Reader} (hreader : session.readers.lookup name = some reader)
    (hseat : session.seats[reader.seat]? = some seat) :
    session.step name =
      let step := reader.iterator.step seat.lexer (session.collectorAt seat.collector)
      (step.outcome.map fun token => token.elim .finished .token,
        { session.updateSeat reader.seat { seat with lexer := step.lexer } step.collector with
          readers := session.readers.bind name { reader with iterator := step.iterator } }) := by
  have hresolve : resolve session.readers name = .ok reader := resolve_eq_ok_iff.2 hreader
  simp only [Session.step, hresolve, hseat]
  rfl

end

/-! ## Commands that leave every place to what stands there -/

/-- Sessions in which the same names stand for the same places, and the lexers in the same places
report to the same places. -/
structure SamePlaces (first second : Session) : Prop where
  lexerNames_eq : second.lexerNames = first.lexerNames
  collectorNames_eq : second.collectorNames = first.collectorNames
  reportsTo?_eq : ∀ place, second.reportsTo? place = first.reportsTo? place
  size_eq : second.collectors.size = first.collectors.size

namespace SamePlaces

variable {first second third : Session}

protected theorem refl (session : Session) : session.SamePlaces session :=
  ⟨rfl, rfl, fun _ => rfl, rfl⟩

protected theorem trans (h : first.SamePlaces second) (h' : second.SamePlaces third) :
    first.SamePlaces third where
  lexerNames_eq := h'.lexerNames_eq.trans h.lexerNames_eq
  collectorNames_eq := h'.collectorNames_eq.trans h.collectorNames_eq
  reportsTo?_eq place := (h'.reportsTo?_eq place).trans (h.reportsTo?_eq place)
  size_eq := h'.size_eq.trans h.size_eq

protected theorem symm (h : first.SamePlaces second) : second.SamePlaces first where
  lexerNames_eq := h.lexerNames_eq.symm
  collectorNames_eq := h.collectorNames_eq.symm
  reportsTo?_eq place := (h.reportsTo?_eq place).symm
  size_eq := h.size_eq.symm

end SamePlaces

theorem placeOf_lexerOf (session : Session) (name : String) :
    session.placeOf (.lexerOf name) =
      match (session.lexerNames.lookup name).bind session.reportsTo? with
      | some slot => .ok slot
      | none => .error (.unknownName name) := by
  cases hname : session.lexerNames.lookup name with
  | none =>
    simp only [placeOf, resolve_of_none hname]
    rfl
  | some place =>
    have hplace := resolve_eq_ok_iff.2 hname
    cases hseat : session.seats[place]? with
    | none =>
      simp only [placeOf, hplace, bind, Except.bind, Option.bind_some, reportsTo?, hseat]
      rfl
    | some seat =>
      simp only [placeOf, hplace, bind, Except.bind, Option.bind_some, reportsTo?, hseat]
      rfl

/-- Sessions with the same places have equally many lexers. -/
theorem SamePlaces.size_seats_eq {first second : Session} (h : first.SamePlaces second) :
    second.seats.size = first.seats.size := by
  have hnone : ∀ place, second.seats.size ≤ place ↔ first.seats.size ≤ place := by
    intro place
    rw [← Array.getElem?_eq_none_iff, ← Array.getElem?_eq_none_iff]
    have hreports := h.reportsTo?_eq place
    rw [reportsTo?, reportsTo?] at hreports
    rw [← @Option.map_eq_none_iff _ _ _ Seat.collector, hreports, Option.map_eq_none_iff]
  have hfirst := (hnone first.seats.size).2 (Nat.le_refl _)
  have hsecond := (hnone second.seats.size).1 (Nat.le_refl _)
  omega

theorem SamePlaces.placeOf_eq {first second : Session} (h : first.SamePlaces second)
    (target : Target) : second.placeOf target = first.placeOf target := by
  cases target with
  | collector name => rw [placeOf, placeOf, h.collectorNames_eq]
  | lexerOf name =>
    have hreports : second.reportsTo? = first.reportsTo? := funext h.reportsTo?_eq
    rw [placeOf_lexerOf, placeOf_lexerOf, h.lexerNames_eq, hreports]

section

variable {session : Session}

theorem samePlaces_updateSeat {place : Nat} {seat : Seat}
    (hseat : session.seats[place]? = some seat) (lexer : Lexer) (collector : Collector) :
    session.SamePlaces (session.updateSeat place { seat with lexer := lexer } collector) where
  lexerNames_eq := rfl
  collectorNames_eq := rfl
  reportsTo?_eq other := by
    by_cases hother : place = other
    · subst hother
      rw [reportsTo?_of_seat hseat, reportsTo?_of_seat (getElem?_seats_updateSeat_self hseat)]
    · rw [reportsTo?, getElem?_seats_updateSeat_of_ne hother]
      rfl
  size_eq := Array.size_setIfInBounds

theorem samePlaces_call (name : String) (call : Call) :
    session.SamePlaces (session.call name call).2 := by
  unfold Session.call
  split
  · exact .refl session
  · unfold Session.callAt
    split
    · exact .refl session
    · next seat hseat => exact samePlaces_updateSeat hseat _ _

theorem samePlaces_onCollector (target : Target)
    (act : Collector → Except Failure Reply × Collector) :
    session.SamePlaces (session.onCollector target act).2 := by
  unfold Session.onCollector
  split
  · exact .refl session
  · exact ⟨rfl, rfl, fun _ => rfl, Array.size_setIfInBounds⟩

theorem samePlaces_step (name : String) : session.SamePlaces (session.step name).2 := by
  unfold Session.step
  split
  · exact .refl session
  · next reader _ =>
    split
    · exact .refl session
    · next seat hseat =>
      have hupdate := samePlaces_updateSeat hseat
        (reader.iterator.step seat.lexer (session.collectorAt seat.collector)).lexer
        (reader.iterator.step seat.lexer (session.collectorAt seat.collector)).collector
      exact ⟨rfl, rfl, hupdate.reportsTo?_eq, hupdate.size_eq⟩

end

/-- Whether a command makes a lexer or a collector, if it can. -/
def Command.makesPlace : Command → Bool
  | .create .. => true
  | .collect .. => true
  | _ => false

/-- All other commands leave names and places as they are. -/
theorem samePlaces_perform {command : Command} (hcommand : command.makesPlace = false)
    (session : Session) : session.SamePlaces (session.perform command).2 := by
  cases command with
  | create | collect => cases hcommand
  | next | advance | peek | skipBlanks | close | enter | leave | change | drain =>
    exact samePlaces_call _ _
  | iterate name iterator =>
    simp only [perform]
    split
    · exact .refl session
    · exact ⟨rfl, rfl, fun _ => rfl, rfl⟩
  | step iterator => exact samePlaces_step iterator
  | report name diagnostic =>
    cases diagnostic with
    | error failure => exact .refl session
    | ok diagnostic => exact samePlaces_onCollector _ _
  | hasErrors | errorCount | entries | summary | clear | tokenize =>
    exact samePlaces_onCollector _ _

end Session

/-! ## New lexers -/

/-- A lexer reports to the collector that it is given, and what that holds does not matter. -/
theorem Lexer.create_some (source : Argument) (options : Options) (collector : Collector) :
    create source options (some collector) =
      ((sourceOf source).mapError Failure.argument).map fun text =>
        ({ cursor := Cursor.ofText text, options }, collector) := by
  unfold create
  cases (sourceOf source).mapError Failure.argument <;> rfl

/-- A new lexer has not moved, and it is open. -/
theorem Lexer.exists_ofText_of_create {source : Argument} {options : Options}
    {collector : Option Collector} {lexer : Lexer} {held : Collector}
    (h : create source options collector = .ok (lexer, held)) :
    ∃ text, lexer = { cursor := Cursor.ofText text, options } := by
  unfold create at h
  cases htext : (sourceOf source).mapError Failure.argument with
  | error failure => rw [htext] at h; cases h
  | ok text =>
    rw [htext] at h
    cases collector with
    | some collector => cases h; exact ⟨text, rfl⟩
    | none =>
      cases hlimit : Collector.ofLimit? options.maxErrors with
      | error failure => simp only [hlimit] at h; cases h
      | ok made => simp only [hlimit] at h; cases h; exact ⟨text, rfl⟩

namespace Session

/-- A lexer that is added takes the name and the next place. -/
theorem lookup_addLexer (session : Session) (name : String) (lexer : Lexer) (collector : Nat) :
    (session.addLexer name lexer collector).lexerNames.lookup name = some session.seats.size
      ∧ (session.addLexer name lexer collector).seats[session.seats.size]?
          = some ⟨lexer, collector⟩ := by
  constructor
  · exact Bindings.lookup_bind_self
  · exact Array.getElem?_push_size

theorem reportsTo?_addLexer (session : Session) (name : String) (lexer : Lexer)
    (collector place : Nat) :
    (session.addLexer name lexer collector).reportsTo? place
      = if place = session.seats.size then some collector else session.reportsTo? place := by
  show (session.seats.push ⟨lexer, collector⟩)[place]?.map Seat.collector = _
  rw [Array.getElem?_push]
  split <;> rfl

/-- Where making a lexer succeeds, it comes down to adding one, and before it a collector if none
was named. -/
theorem create_eq_addLexer {session : Session} {name : String} {source : Argument}
    {options : Options} {given : Option String}
    (h : (session.create name source options given).1 = .ok .done) :
    ∃ base lexer held slot,
      Lexer.create source options (given.bind session.collector?) = .ok (lexer, held)
        ∧ (session.create name source options given).2 = addLexer base name lexer slot
        ∧ base.collectorAt slot = held
        ∧ (given = none → base = session.addCollector held ∧ slot = session.collectors.size)
        ∧ (∀ collector, given = some collector →
            base = session ∧ session.collectorNames.lookup collector = some slot) := by
  cases given with
  | none =>
    simp only [create] at h ⊢
    split at h
    · cases h
    · next lexer made hcreate =>
      refine ⟨session.addCollector made, lexer, made, _, hcreate, rfl, ?_,
        fun _ => ⟨rfl, rfl⟩, nofun⟩
      exact collectorAt_of_getElem? Array.getElem?_push_size
  | some collector =>
    simp only [create] at h ⊢
    split at h
    · cases h
    · next place hplace =>
      rw [resolve_eq_ok_iff] at hplace
      have hheld : session.collector? collector = some (session.collectorAt place) := by
        rw [collector?, hplace]
        rfl
      split at h
      · cases h
      · next lexer made hcreate =>
        obtain rfl : made = session.collectorAt place := by
          rw [Lexer.create_some] at hcreate
          cases htext : (Lexer.sourceOf source).mapError Failure.argument with
          | error failure => rw [htext] at hcreate; cases hcreate
          | ok text => rw [htext] at hcreate; cases hcreate; rfl
        refine ⟨session, lexer, _, place, ?_, rfl, rfl, nofun, ?_⟩
        · rw [Option.bind_some, hheld]
          exact hcreate
        · intro other hother
          cases hother
          exact ⟨rfl, hplace⟩

end Session
end SourceLexer
