import SourceLexer.Proofs.Session.Seats

/-!
# What lexers with different collectors have to do with each other

Lexers in one session meet in their collector and nowhere else.  Here one collector is fixed, with
the lexers that report to it and their iterators, and two sessions are compared that agree on these;
in all other lexers and collectors they may differ as they like (`Session.AgreeAt`).

## Leaving the others out

`Session.without` takes out of a row of commands those that are about other lexers and collectors.
Two facts about a single command are enough to see that nobody notices
(`Session.agreeAt_performAll_without`).  A command that is about others leaves everything here as it
is (`Session.agreeAt_perform`), and one that is about what is here answers and does the same in both
sessions (`Session.AgreeAt.perform`).  The obvious third case is that of names: a command that gives
a name may give it to others, so such commands are kept, and they do the same in both sessions as
well, because whether a lexer can be made is not a question of what a collector holds.
-/

namespace SourceLexer
namespace Session

/-! ## What a command is about -/

/-- The place of the lexer that an iterator reads from. -/
def readsFrom? (session : Session) (iterator : String) : Option Nat :=
  (session.readers.lookup iterator).map Reader.seat

/-- The place of the collector that a command is about, either itself or by way of a lexer.  A
command that gives a name is not about any. -/
def slotOf? (session : Session) : Command → Option Nat
  | .next name | .advance name _ | .peek name _ | .skipBlanks name | .close name | .enter name
  | .leave name | .change name _ | .drain name =>
    (session.lexerNames.lookup name).bind session.reportsTo?
  | .step iterator => (session.readsFrom? iterator).bind session.reportsTo?
  | .report name _ | .hasErrors name | .errorCount name | .entries name | .tokenize name _ _ =>
    session.collectorNames.lookup name
  | .summary target | .clear target => (session.placeOf target).toOption
  | .create .. | .collect .. | .iterate .. => none

/-- Whether a command gives a name to something new. -/
def Command.givesName : Command → Bool
  | .create .. | .collect .. | .iterate .. => true
  | _ => false

/-- Whether a command is about the collector at a place, or gives a name. -/
def concerns (session : Session) (slot : Nat) (command : Command) : Bool :=
  command.givesName || session.slotOf? command = some slot

/-- Commands without those that are about other collectors and their lexers. -/
def without (slot : Nat) : Session → List Command → List Command
  | _, [] => []
  | session, command :: commands =>
    let rest := without slot (session.perform command).2 commands
    if session.concerns slot command then command :: rest else rest

/-! ## Sessions that agree at a collector -/

/-- Sessions with the same names for the same places that agree on one collector, on the lexers that
report to it, and on the iterators that do not read from other lexers. -/
structure AgreeAt (slot : Nat) (first second : Session) : Prop where
  places : first.SamePlaces second
  seats : ∀ place, first.reportsTo? place = some slot → second.seats[place]? = first.seats[place]?
  collectors : second.collectors[slot]? = first.collectors[slot]?
  readsFrom?_eq : ∀ iterator, second.readsFrom? iterator = first.readsFrom? iterator
  readers : ∀ iterator, (∀ place other, first.readsFrom? iterator = some place →
    first.reportsTo? place = some other → other = slot) →
    second.readers.lookup iterator = first.readers.lookup iterator

namespace AgreeAt

variable {slot : Nat} {first second third : Session}

protected theorem refl (slot : Nat) (session : Session) : session.AgreeAt slot session :=
  ⟨.refl session, fun _ _ => rfl, rfl, fun _ => rfl, fun _ _ => rfl⟩

protected theorem symm (h : first.AgreeAt slot second) : second.AgreeAt slot first where
  places := h.places.symm
  seats place hreports := (h.seats place ((h.places.reportsTo?_eq place).symm.trans hreports)).symm
  collectors := h.collectors.symm
  readsFrom?_eq iterator := (h.readsFrom?_eq iterator).symm
  readers iterator hreads := by
    refine (h.readers iterator fun place other hplace hother => ?_).symm
    rw [← h.readsFrom?_eq] at hplace
    rw [← h.places.reportsTo?_eq] at hother
    exact hreads place other hplace hother

protected theorem trans (h : first.AgreeAt slot second) (h' : second.AgreeAt slot third) :
    first.AgreeAt slot third where
  places := h.places.trans h'.places
  seats place hreports := by
    rw [h'.seats place ((h.places.reportsTo?_eq place).trans hreports), h.seats place hreports]
  collectors := h'.collectors.trans h.collectors
  readsFrom?_eq iterator := (h'.readsFrom?_eq iterator).trans (h.readsFrom?_eq iterator)
  readers iterator hreads := by
    refine (h'.readers iterator fun place other hplace hother => ?_).trans
      (h.readers iterator hreads)
    rw [h.readsFrom?_eq] at hplace
    rw [h.places.reportsTo?_eq] at hother
    exact hreads place other hplace hother

theorem collectorAt_eq (h : first.AgreeAt slot second) :
    second.collectorAt slot = first.collectorAt slot := by
  rw [collectorAt, collectorAt, Array.getD_eq_getD_getElem?, Array.getD_eq_getD_getElem?,
    h.collectors]

end AgreeAt

theorem readsFrom?_bind_self {session : Session} {iterator : String} {reader : Reader} :
    ({ session with readers := session.readers.bind iterator reader } : Session).readsFrom?
      iterator = some reader.seat :=
  congrArg (Option.map Reader.seat) Bindings.lookup_bind_self

theorem readsFrom?_bind_of_ne {session : Session} {iterator other : String} {reader : Reader}
    (hother : other ≠ iterator) :
    ({ session with readers := session.readers.bind iterator reader } : Session).readsFrom? other
      = session.readsFrom? other :=
  congrArg (Option.map Reader.seat) (Bindings.lookup_bind_of_ne hother)

/-! ## Commands that are about others -/

section

variable {session : Session} {slot : Nat}

theorem agreeAt_updateSeat {place : Nat} {seat : Seat} (hseat : session.seats[place]? = some seat)
    (hother : seat.collector ≠ slot) (lexer : Lexer) (collector : Collector) :
    session.AgreeAt slot (session.updateSeat place { seat with lexer := lexer } collector) where
  places := samePlaces_updateSeat hseat lexer collector
  seats other hreports := by
    refine getElem?_seats_updateSeat_of_ne ?_
    rintro rfl
    rw [reportsTo?_of_seat hseat] at hreports
    exact hother (Option.some.inj hreports)
  collectors := @getElem?_collectors_updateSeat_of_ne session place slot
    { seat with lexer := lexer } collector hother
  readsFrom?_eq _ := rfl
  readers _ _ := rfl

theorem agreeAt_call {name : String}
    (hother : (session.lexerNames.lookup name).bind session.reportsTo? ≠ some slot) (call : Call) :
    session.AgreeAt slot (session.call name call).2 := by
  unfold Session.call
  split
  · exact .refl slot session
  · next place hresolve =>
    unfold Session.callAt
    split
    · exact .refl slot session
    · next seat hseat =>
      refine agreeAt_updateSeat hseat (fun hslot => hother ?_) _ _
      rw [resolve_eq_ok_iff.1 hresolve, Option.bind_some, reportsTo?_of_seat hseat, hslot]

theorem agreeAt_step {iterator : String}
    (hother : (session.readsFrom? iterator).bind session.reportsTo? ≠ some slot) :
    session.AgreeAt slot (session.step iterator).2 := by
  unfold Session.step
  split
  · exact .refl slot session
  · next reader hresolve =>
    split
    · exact .refl slot session
    · next seat hseat =>
      have hreads : session.readsFrom? iterator = some reader.seat := by
        rw [readsFrom?, resolve_eq_ok_iff.1 hresolve]
        rfl
      have helsewhere : seat.collector ≠ slot := by
        rintro rfl
        rw [hreads, Option.bind_some, reportsTo?_of_seat hseat] at hother
        exact hother rfl
      have hupdate := agreeAt_updateSeat hseat helsewhere
        (reader.iterator.step seat.lexer (session.collectorAt seat.collector)).lexer
        (reader.iterator.step seat.lexer (session.collectorAt seat.collector)).collector
      refine ⟨⟨rfl, rfl, hupdate.places.reportsTo?_eq, hupdate.places.size_eq⟩, hupdate.seats,
        hupdate.collectors, ?_, ?_⟩
      · intro other
        by_cases hname : other = iterator
        · subst hname
          rw [hreads]
          exact readsFrom?_bind_self
        · exact readsFrom?_bind_of_ne hname
      · intro other hhere
        refine Bindings.lookup_bind_of_ne ?_
        rintro rfl
        exact helsewhere (hhere _ _ hreads (reportsTo?_of_seat hseat))

theorem agreeAt_onCollector {target : Target}
    (hother : (session.placeOf target).toOption ≠ some slot)
    (act : Collector → Except Failure Reply × Collector) :
    session.AgreeAt slot (session.onCollector target act).2 := by
  unfold Session.onCollector
  split
  · exact .refl slot session
  · next place hplace =>
    have helsewhere : place ≠ slot := by
      rintro rfl
      rw [hplace] at hother
      exact hother rfl
    exact ⟨⟨rfl, rfl, fun _ => rfl, Array.size_setIfInBounds⟩, fun _ _ => rfl,
      Array.getElem?_setIfInBounds_ne helsewhere, fun _ => rfl, fun _ _ => rfl⟩

theorem toOption_resolve {α : Type} (bindings : Bindings α) (name : String) :
    (resolve bindings name).toOption = bindings.lookup name := by
  unfold resolve
  cases bindings.lookup name <;> rfl

/-- A command that is about others leaves everything here as it is. -/
theorem agreeAt_perform {command : Command} (h : session.concerns slot command = false) :
    session.AgreeAt slot (session.perform command).2 := by
  rw [concerns, Bool.or_eq_false_iff, decide_eq_false_iff_not] at h
  obtain ⟨hnames, hother⟩ := h
  cases command with
  | create | collect | iterate => cases hnames
  | next | advance | peek | skipBlanks | close | enter | leave | change | drain =>
    exact agreeAt_call hother _
  | step => exact agreeAt_step hother
  | report name diagnostic =>
    cases diagnostic with
    | error failure => exact .refl slot session
    | ok diagnostic =>
      refine agreeAt_onCollector ?_ _
      rw [placeOf, toOption_resolve]
      exact hother
  | hasErrors | errorCount | entries | tokenize =>
    refine agreeAt_onCollector ?_ _
    rw [placeOf, toOption_resolve]
    exact hother
  | summary | clear => exact agreeAt_onCollector hother _

end

/-! ## Commands that are about what is here -/

namespace AgreeAt

variable {slot : Nat} {first second : Session}

theorem updateSeat (h : first.AgreeAt slot second) {place : Nat} {seat : Seat}
    (hseat : first.seats[place]? = some seat) (hslot : seat.collector = slot) (lexer : Lexer)
    (collector : Collector) :
    (first.updateSeat place { seat with lexer := lexer } collector).AgreeAt slot
      (second.updateSeat place { seat with lexer := lexer } collector) := by
  subst hslot
  have hreports : first.reportsTo? place = some seat.collector := reportsTo?_of_seat hseat
  have hseat' : second.seats[place]? = some seat := (h.seats place hreports).trans hseat
  have hsame := samePlaces_updateSeat hseat lexer collector
  have hsame' := samePlaces_updateSeat hseat' lexer collector
  refine ⟨hsame.symm.trans (h.places.trans hsame'), ?_, ?_, h.readsFrom?_eq, ?_⟩
  · intro other hother
    by_cases hne : place = other
    · subst hne
      rw [getElem?_seats_updateSeat_self hseat, getElem?_seats_updateSeat_self hseat']
    · rw [getElem?_seats_updateSeat_of_ne hne, getElem?_seats_updateSeat_of_ne hne]
      exact h.seats other ((hsame.reportsTo?_eq other).symm.trans hother)
  · show (second.collectors.setIfInBounds seat.collector collector)[seat.collector]?
      = (first.collectors.setIfInBounds seat.collector collector)[seat.collector]?
    rw [Array.getElem?_setIfInBounds_self, Array.getElem?_setIfInBounds_self, h.places.size_eq]
  · intro iterator hreads
    refine h.readers iterator fun other slot hother hslot => ?_
    exact hreads other slot hother ((hsame.reportsTo?_eq other).trans hslot)

theorem bindReader (h : first.AgreeAt slot second) (iterator : String) (reader : Reader) :
    ({ first with readers := first.readers.bind iterator reader } : Session).AgreeAt slot
      { second with readers := second.readers.bind iterator reader } := by
  refine ⟨⟨h.places.lexerNames_eq, h.places.collectorNames_eq, h.places.reportsTo?_eq,
    h.places.size_eq⟩, h.seats, h.collectors, fun other => ?_, fun other hreads => ?_⟩
  · by_cases hother : other = iterator
    · subst hother
      exact readsFrom?_bind_self.trans readsFrom?_bind_self.symm
    · rw [readsFrom?_bind_of_ne hother, readsFrom?_bind_of_ne hother]
      exact h.readsFrom?_eq other
  · by_cases hother : other = iterator
    · subst hother
      exact Bindings.lookup_bind_self.trans Bindings.lookup_bind_self.symm
    · refine (Bindings.lookup_bind_of_ne hother).trans (Eq.trans ?_
        (Bindings.lookup_bind_of_ne hother).symm)
      rw [readsFrom?_bind_of_ne hother] at hreads
      exact h.readers other hreads

theorem call (h : first.AgreeAt slot second) {name : String}
    (hhere : (first.lexerNames.lookup name).bind first.reportsTo? = some slot) (call : Call) :
    (second.call name call).1 = (first.call name call).1
      ∧ (first.call name call).2.AgreeAt slot (second.call name call).2 := by
  obtain ⟨place, hname, hreports⟩ := Option.bind_eq_some_iff.1 hhere
  obtain ⟨seat, hseat, rfl⟩ := exists_seat_of_reportsTo? hreports
  have hname' : second.lexerNames.lookup name = some place := by
    rw [h.places.lexerNames_eq, hname]
  have hseat' : second.seats[place]? = some seat := (h.seats place hreports).trans hseat
  rw [call_eq_of_lookup hname hseat, call_eq_of_lookup hname' hseat', h.collectorAt_eq]
  exact ⟨rfl, h.updateSeat hseat rfl _ _⟩

theorem step (h : first.AgreeAt slot second) {iterator : String}
    (hhere : (first.readsFrom? iterator).bind first.reportsTo? = some slot) :
    (second.step iterator).1 = (first.step iterator).1
      ∧ (first.step iterator).2.AgreeAt slot (second.step iterator).2 := by
  obtain ⟨place, hreads, hreports⟩ := Option.bind_eq_some_iff.1 hhere
  obtain ⟨reader, hreader, rfl⟩ := Option.map_eq_some_iff.1 hreads
  obtain ⟨seat, hseat, rfl⟩ := exists_seat_of_reportsTo? hreports
  have hreader' : second.readers.lookup iterator = some reader := by
    rw [h.readers iterator, hreader]
    intro other slot hother hslot
    obtain rfl := Option.some.inj (hreads.symm.trans hother)
    exact Option.some.inj (hslot.symm.trans hreports)
  have hseat' : second.seats[reader.seat]? = some seat := (h.seats _ hreports).trans hseat
  have hupdate := h.updateSeat hseat rfl
    (reader.iterator.step seat.lexer (first.collectorAt seat.collector)).lexer
    (reader.iterator.step seat.lexer (first.collectorAt seat.collector)).collector
  rw [step_eq_of_lookup hreader hseat, step_eq_of_lookup hreader' hseat', h.collectorAt_eq]
  exact ⟨rfl, hupdate.bindReader iterator _⟩

theorem updateCollector (h : first.AgreeAt slot second) (collector : Collector) :
    (first.updateCollector slot collector).AgreeAt slot
      (second.updateCollector slot collector) where
  places := by
    refine ⟨h.places.lexerNames_eq, h.places.collectorNames_eq, h.places.reportsTo?_eq, ?_⟩
    show (second.collectors.setIfInBounds _ _).size = (first.collectors.setIfInBounds _ _).size
    rw [Array.size_setIfInBounds, Array.size_setIfInBounds, h.places.size_eq]
  seats := h.seats
  collectors := by
    show (second.collectors.setIfInBounds slot collector)[slot]?
      = (first.collectors.setIfInBounds slot collector)[slot]?
    rw [Array.getElem?_setIfInBounds_self, Array.getElem?_setIfInBounds_self, h.places.size_eq]
  readsFrom?_eq := h.readsFrom?_eq
  readers := h.readers

theorem onCollector (h : first.AgreeAt slot second) {target : Target}
    (hhere : (first.placeOf target).toOption = some slot)
    (act : Collector → Except Failure Reply × Collector) :
    (second.onCollector target act).1 = (first.onCollector target act).1
      ∧ (first.onCollector target act).2.AgreeAt slot (second.onCollector target act).2 := by
  cases hplace : first.placeOf target with
  | error failure =>
    rw [hplace] at hhere
    cases hhere
  | ok place =>
    rw [hplace] at hhere
    obtain rfl : place = slot := Option.some.inj hhere
    have hplace' : second.placeOf target = .ok place := (h.places.placeOf_eq target).trans hplace
    simp only [Session.onCollector, hplace, hplace', h.collectorAt_eq]
    exact ⟨trivial, h.updateCollector _⟩

/-! ## Commands that give names -/

theorem addCollector (h : first.AgreeAt slot second) (collector : Collector) :
    (first.addCollector collector).AgreeAt slot (second.addCollector collector) where
  places := by
    refine ⟨h.places.lexerNames_eq, h.places.collectorNames_eq, h.places.reportsTo?_eq, ?_⟩
    show (second.collectors.push _).size = (first.collectors.push _).size
    rw [Array.size_push, Array.size_push, h.places.size_eq]
  seats := h.seats
  collectors := by
    show (second.collectors.push collector)[slot]? = (first.collectors.push collector)[slot]?
    rw [Array.getElem?_push, Array.getElem?_push, h.places.size_eq, h.collectors]
  readsFrom?_eq := h.readsFrom?_eq
  readers := h.readers

theorem addLexer (h : first.AgreeAt slot second) (name : String) (lexer : Lexer) (place : Nat) :
    (first.addLexer name lexer place).AgreeAt slot (second.addLexer name lexer place) := by
  have hsize := h.places.size_seats_eq
  refine ⟨⟨?_, h.places.collectorNames_eq, fun other => ?_, h.places.size_eq⟩,
    fun other hother => ?_, h.collectors, h.readsFrom?_eq, fun iterator hreads => ?_⟩
  · show second.lexerNames.bind name second.seats.size = first.lexerNames.bind name first.seats.size
    rw [hsize, h.places.lexerNames_eq]
  · rw [reportsTo?_addLexer, reportsTo?_addLexer, hsize, h.places.reportsTo?_eq]
  · show (second.seats.push ⟨lexer, place⟩)[other]? = (first.seats.push ⟨lexer, place⟩)[other]?
    rw [Array.getElem?_push, Array.getElem?_push, hsize]
    split
    · rfl
    · next hold =>
      rw [reportsTo?_addLexer, if_neg hold] at hother
      exact h.seats other hother
  · refine h.readers iterator fun other slot' hother hslot => hreads other slot' hother ?_
    obtain ⟨seat, hseat, -⟩ := exists_seat_of_reportsTo? hslot
    have hold : other < first.seats.size := (Array.getElem?_eq_some_iff.1 hseat).1
    rw [reportsTo?_addLexer, if_neg (by omega), hslot]

/-- Giving and forgetting names in the same way. -/
theorem rename (h : first.AgreeAt slot second) (lexers collectors : Bindings Nat → Bindings Nat) :
    ({ first with
        lexerNames := lexers first.lexerNames
        collectorNames := collectors first.collectorNames } : Session).AgreeAt slot
      { second with
        lexerNames := lexers second.lexerNames
        collectorNames := collectors second.collectorNames } :=
  ⟨⟨congrArg lexers h.places.lexerNames_eq, congrArg collectors h.places.collectorNames_eq,
    h.places.reportsTo?_eq, h.places.size_eq⟩, h.seats, h.collectors, h.readsFrom?_eq, h.readers⟩

theorem create (h : first.AgreeAt slot second) (name : String) (source : Argument)
    (options : Options) (given : Option String) :
    (second.create name source options given).1 = (first.create name source options given).1
      ∧ (first.create name source options given).2.AgreeAt slot
          (second.create name source options given).2 := by
  cases given with
  | none =>
    simp only [Session.create]
    cases Lexer.create source options none with
    | error failure => exact ⟨rfl, h⟩
    | ok made =>
      obtain ⟨lexer, made⟩ := made
      rw [h.places.size_eq]
      exact ⟨rfl, (h.addCollector made).addLexer name lexer _⟩
  | some collector =>
    simp only [Session.create, h.places.collectorNames_eq, Lexer.create_some]
    cases resolve first.collectorNames collector with
    | error failure => exact ⟨rfl, h⟩
    | ok place =>
      cases (Lexer.sourceOf source).mapError Failure.argument with
      | error failure => exact ⟨rfl, h⟩
      | ok text => exact ⟨rfl, h.addLexer name _ place⟩

theorem collect (h : first.AgreeAt slot second) (name : String) (limit : Option Int) :
    (second.perform (.collect name limit)).1 = (first.perform (.collect name limit)).1
      ∧ (first.perform (.collect name limit)).2.AgreeAt slot
          (second.perform (.collect name limit)).2 := by
  simp only [Session.perform]
  cases Collector.ofLimit? limit with
  | error failure => exact ⟨rfl, h.rename id (·.unbind name)⟩
  | ok collector =>
    have hadded := (h.addCollector collector).rename id fun names =>
      (names.unbind name).bind name first.collectors.size
    rw [h.places.size_eq]
    exact ⟨rfl, hadded⟩

/-- A command that is about what is here answers and does the same in both sessions. -/
theorem perform (h : first.AgreeAt slot second) {command : Command}
    (hconcerns : first.concerns slot command = true) :
    (second.perform command).1 = (first.perform command).1
      ∧ (first.perform command).2.AgreeAt slot (second.perform command).2 := by
  rw [concerns, Bool.or_eq_true, decide_eq_true_iff] at hconcerns
  cases command with
  | create name source options given =>
    exact (h.rename (·.unbind name) id).create name source options given
  | collect name limit => exact h.collect name limit
  | iterate name iterator =>
    have hsame : resolve second.lexerNames name = resolve first.lexerNames name := by
      rw [h.places.lexerNames_eq]
    simp only [Session.perform, hsame]
    cases resolve first.lexerNames name with
    | error failure => exact ⟨rfl, h⟩
    | ok place => exact ⟨rfl, h.bindReader iterator ⟨{}, place⟩⟩
  | next | advance | peek | skipBlanks | close | enter | leave | change | drain =>
    exact h.call (hconcerns.resolve_left Bool.false_ne_true) _
  | step => exact h.step (hconcerns.resolve_left Bool.false_ne_true)
  | report name diagnostic =>
    cases diagnostic with
    | error failure => exact ⟨rfl, h⟩
    | ok diagnostic =>
      refine h.onCollector ?_ _
      rw [placeOf, toOption_resolve]
      exact hconcerns.resolve_left Bool.false_ne_true
  | hasErrors | errorCount | entries | tokenize =>
    refine h.onCollector ?_ _
    rw [placeOf, toOption_resolve]
    exact hconcerns.resolve_left Bool.false_ne_true
  | summary | clear => exact h.onCollector (hconcerns.resolve_left Bool.false_ne_true) _

/-- Nobody notices whether commands that are about others are performed. -/
theorem performAll_without (h : first.AgreeAt slot second) (commands : List Command) :
    (first.performAll commands).AgreeAt slot
      (second.performAll (without slot first commands)) := by
  induction commands generalizing first second with
  | nil => exact h
  | cons command commands ih =>
    rw [without]
    cases hconcerns : first.concerns slot command with
    | true => exact ih (h.perform hconcerns).2
    | false => exact ih ((agreeAt_perform hconcerns).symm.trans h)

end AgreeAt

end Session
end SourceLexer
