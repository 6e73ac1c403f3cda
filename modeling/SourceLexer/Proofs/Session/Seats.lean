import SourceLexer.Proofs.Reach
import SourceLexer.Proofs.Session.Places

/-!
# What commands make of the lexers of a session

A lexer of a session can be moved in many ways: by calls under any of its names, by iterators that
somebody made of it earlier, and by all of these in turn.  Its place in the session never changes,
so what becomes of it is said of places.

## One case analysis for every command

There are many commands and few things that they do to a session; `Session.Evolves` lists these.
Every command comes down to them (`Lexer.Lasting.perform`), and so does any number of commands
(`Lexer.Lasting.performAll`).  What a call makes of a lexer is left open: it is a relation between
what the lexer was and what it is, of which `Lexer.Lasting` asks no more than that every single call
carries it on.  Later proofs need no cases on commands: they choose a relation, or they go through
the list.

Two consequences are drawn here.  Every lexer stays in its place, related to what it was
(`Session.Evolves.relates`); and no name of a collector, and no lexer, ever refers to a collector
that is not there (`Session.sound_performAll`).
-/

namespace SourceLexer

/-! ## Cursors that have moved on -/

/-- The second cursor is the first one some characters on. -/
def Cursor.LeadsTo (first second : Cursor) : Prop :=
  ∃ count, second = first.advanceBy count

namespace Cursor.LeadsTo

variable {first second third : Cursor}

protected theorem refl (cursor : Cursor) : cursor.LeadsTo cursor :=
  ⟨0, rfl⟩

protected theorem trans (h : first.LeadsTo second) (h' : second.LeadsTo third) :
    first.LeadsTo third := by
  obtain ⟨count, rfl⟩ := h
  obtain ⟨more, rfl⟩ := h'
  exact ⟨count + more, advanceBy_advanceBy count more first⟩

theorem source_eq (h : first.LeadsTo second) : second.source = first.source := by
  obtain ⟨count, rfl⟩ := h
  exact source_advanceBy count first

theorem wellFormed (h : first.LeadsTo second) (hformed : first.WellFormed) :
    second.WellFormed := by
  obtain ⟨count, rfl⟩ := h
  exact hformed.advanceBy count

theorem index_le (h : first.LeadsTo second) : first.index ≤ second.index := by
  obtain ⟨count, rfl⟩ := h
  rw [index_advanceBy]
  omega

end Cursor.LeadsTo

/-! ## Relations that calls carry on -/

/-- A relation between what a lexer was and what calls have made of it.  Setting an option is not
counted as a call. -/
structure Lexer.Lasting (related : Lexer → Lexer → Prop) : Prop where
  refl : ∀ lexer, related lexer lexer
  trans : ∀ {first second third}, related first second → related second third → related first third
  next : ∀ lexer collector, related lexer (Lexer.next lexer collector).lexer
  advance : ∀ {lexer moved} count, Lexer.advance lexer count = .ok moved → related lexer moved
  skipBlanks : ∀ {lexer moved}, Lexer.skipBlanks lexer = .ok moved → related lexer moved
  close : ∀ {lexer moved}, Lexer.close lexer = .ok moved → related lexer moved
  leave : ∀ lexer, related lexer (Lexer.leave lexer)

namespace Session

/-- A call that does no more to the cursor than to move it on. -/
def Call.Moves (call : Call) : Prop :=
  ∀ (lexer : Lexer) (collector : Collector),
    lexer.cursor.LeadsTo (call lexer collector).lexer.cursor

theorem Call.Single.moves {call : Call} (h : call.Single) : call.Moves :=
  h.exists_advanceBy

/-- What a session can become.  A lexer that has a place stays there and changes as the relation
says; a new lexer reports to a collector that is there, or that goes by some name. -/
inductive Evolves (related : Lexer → Lexer → Prop) : Session → Session → Prop where
  | refl (session : Session) : Evolves related session session
  | trans {first second third : Session} :
      Evolves related first second → Evolves related second third → Evolves related first third
  | updateSeat {session : Session} {place : Nat} {seat : Seat} {lexer : Lexer}
      (collector : Collector) (hseat : session.seats[place]? = some seat)
      (hlexer : related seat.lexer lexer) :
      Evolves related session
        (session.updateSeat place { seat with lexer := lexer } collector)
  | updateCollector (session : Session) (place : Nat) (collector : Collector) :
      Evolves related session (session.updateCollector place collector)
  | addCollector (session : Session) (collector : Collector) :
      Evolves related session (session.addCollector collector)
  | addLexer {session : Session} (name : String) (lexer : Lexer) {collector : Nat}
      (hcollector : collector < session.collectors.size
        ∨ ∃ other, session.collectorNames.lookup other = some collector) :
      Evolves related session (session.addLexer name lexer collector)
  | nameCollector {session : Session} (name : String) {collector : Nat}
      (hcollector : collector < session.collectors.size) :
      Evolves related session
        { session with collectorNames := session.collectorNames.bind name collector }
  | forgetLexer (session : Session) (name : String) :
      Evolves related session { session with lexerNames := session.lexerNames.unbind name }
  | forgetCollector (session : Session) (name : String) :
      Evolves related session
        { session with collectorNames := session.collectorNames.unbind name }
  | setReaders (session : Session) (readers : Bindings Reader) :
      Evolves related session { session with readers := readers }

/-- Every lexer of the first session is in its place in the second one, with the collector that it
reports to and related to what it was. -/
def Relates (related : Lexer → Lexer → Prop) (first second : Session) : Prop :=
  ∀ (place : Nat) (seat : Seat), first.seats[place]? = some seat →
    ∃ moved, second.seats[place]? = some moved ∧ moved.collector = seat.collector
      ∧ related seat.lexer moved.lexer

/-- Every lexer of the first session is in its place in the second one, where it was or some
characters further on. -/
def LeadsTo (first second : Session) : Prop :=
  ∀ (place : Nat) (seat : Seat), first.seats[place]? = some seat →
    ∃ moved, second.seats[place]? = some moved
      ∧ seat.lexer.cursor.LeadsTo moved.lexer.cursor

/-! ### Commands of which several are made alike -/

section

variable {related : Lexer → Lexer → Prop}

theorem evolves_call {call : Call}
    (hcall : ∀ lexer collector, related lexer (call lexer collector).lexer)
    (session : Session) (name : String) :
    session.Evolves related (session.call name call).2 := by
  unfold Session.call
  split
  · exact .refl session
  · unfold callAt
    split
    · exact .refl session
    · next seat hseat => exact .updateSeat _ hseat (hcall _ _)

theorem evolves_onCollector (session : Session) (target : Target)
    (act : Collector → Except Failure Reply × Collector) :
    session.Evolves related (session.onCollector target act).2 := by
  unfold onCollector
  split
  · exact .refl session
  · exact .updateCollector session _ _

theorem evolves_create (session : Session) (name : String) (source : Argument) (options : Options)
    (collector : Option String) :
    session.Evolves related (session.create name source options collector).2 := by
  unfold create
  split
  · split
    · exact .refl session
    · next lexer made _ =>
      have hplace : session.collectors.size < (session.addCollector made).collectors.size := by
        simp [addCollector]
      exact .trans (.addCollector session made) (.addLexer name lexer (.inl hplace))
  · split
    · exact .refl session
    · next place hplace =>
      split
      · exact .refl session
      · next lexer _ _ =>
        exact .addLexer name lexer (.inr ⟨_, resolve_eq_ok_iff.1 hplace⟩)

theorem evolves_collect (session : Session) (name : String) (limit : Option Int) :
    session.Evolves related (session.perform (.collect name limit)).2 := by
  have hforget : session.Evolves related _ := .forgetCollector session name
  simp only [perform]
  split
  · exact hforget
  · next collector _ =>
    have hplace : session.collectors.size < (session.addCollector collector).collectors.size := by
      simp [addCollector]
    exact .trans (hforget.trans (.addCollector _ collector)) (.nameCollector name hplace)

end

end Session

/-- Cursors are moved on by every call. -/
theorem Lexer.lasting_leadsTo :
    Lasting fun first second => first.cursor.LeadsTo second.cursor where
  refl lexer := .refl lexer.cursor
  trans h h' := h.trans h'
  next := Session.Call.Single.next.moves
  advance count h := ⟨count, cursor_of_advance h⟩
  skipBlanks h := ⟨_, cursor_of_skipBlanks h⟩
  close h := ⟨0, cursor_of_close h⟩
  leave lexer := .refl lexer.cursor

namespace Lexer.Lasting

open Session (Call Command evolves_call evolves_create evolves_collect evolves_onCollector)

variable {related : Lexer → Lexer → Prop} (h : Lasting related)

include h

/-! ### Calls that are made of others -/

/-- A run is made of calls for a token. -/
theorem drain (lexer : Lexer) (collector : Collector) :
    related lexer (lexer.drain collector).lexer := by
  -- every token but the last leaves less of the text
  induction hlength : lexer.cursor.live.length using Nat.strong_induction_on
    generalizing lexer collector with
  | _ length ih =>
    subst hlength
    have hnext := h.next lexer collector
    cases houtcome : (lexer.next collector).outcome with
    | error failure =>
      rw [drain_of_error houtcome]
      exact hnext
    | ok token =>
      by_cases hend : token.kind = .endOfInput
      · rw [drain_of_end houtcome hend]
        exact hnext
      · rw [drain_of_token houtcome hend]
        exact h.trans hnext (ih _ (live_length_lt_of_next houtcome hend) _ _ rfl)

/-- A step of an iterator is a call, or it leaves the lexer alone. -/
theorem step (iterator : Iterator) (lexer : Lexer) (collector : Collector) :
    related lexer (iterator.step lexer collector).lexer := by
  unfold Iterator.step
  split
  · exact h.refl lexer
  · have hnext := h.next lexer collector
    cases houtcome : (lexer.next collector).outcome <;> simpa [houtcome] using hnext

/-- A change that fails leaves the lexer as it was. -/
theorem moving {move : Lexer → Except Failure Lexer}
    (hmove : ∀ {lexer moved}, move lexer = .ok moved → related lexer moved) (lexer : Lexer)
    (collector : Collector) : related lexer (Call.moving move lexer collector).lexer := by
  unfold Call.moving
  cases hmoved : move lexer with
  | ok moved => exact hmove hmoved
  | error failure => exact h.refl lexer

/-! ### Commands -/

theorem stepNamed (session : Session) (name : String) :
    session.Evolves related (session.step name).2 := by
  unfold Session.step
  split
  · exact .refl session
  · next reader _ =>
    split
    · exact .refl session
    · next seat hseat =>
      have hstep := h.step reader.iterator seat.lexer (session.collectorAt seat.collector)
      exact .trans (.updateSeat _ hseat hstep) (.setReaders _ _)

/-- Every command comes down to what a session can become.  Of a command that sets an option it has
to be known by itself what it makes of lexers. -/
theorem perform (session : Session) (command : Command)
    (hchange : ∀ name change, command = .change name change →
      ∀ lexer, related lexer { lexer with options := lexer.options.apply change }) :
    session.Evolves related (session.perform command).2 := by
  have hasking : ∀ ask lexer collector, related lexer (Call.asking ask lexer collector).lexer :=
    fun _ lexer _ => h.refl lexer
  cases command with
  | create name source options collector =>
    have hforget : session.Evolves related _ := .forgetLexer session name
    exact hforget.trans (evolves_create _ name source options collector)
  | next name => exact evolves_call h.next session name
  | advance name count =>
    exact evolves_call (h.moving fun hmoved => h.advance count hmoved) session name
  | peek name offset => exact evolves_call (hasking _) session name
  | skipBlanks name => exact evolves_call (h.moving h.skipBlanks) session name
  | close name => exact evolves_call (h.moving h.close) session name
  | enter name => exact evolves_call (hasking _) session name
  | leave name =>
    refine evolves_call (h.moving fun {lexer moved} hmoved => ?_) session name
    cases hmoved
    exact h.leave lexer
  | change name change =>
    refine evolves_call (h.moving fun {lexer moved} hmoved => ?_) session name
    cases hmoved
    exact hchange name change rfl lexer
  | drain name => exact evolves_call h.drain session name
  | iterate name iterator =>
    simp only [Session.perform]
    split
    · exact .refl session
    · exact .setReaders session _
  | step iterator => exact h.stepNamed session iterator
  | collect name limit => exact evolves_collect session name limit
  | report name diagnostic =>
    simp only [Session.perform]
    split
    · exact .refl session
    · exact evolves_onCollector session _ _
  | hasErrors name => exact evolves_onCollector session _ _
  | errorCount name => exact evolves_onCollector session _ _
  | entries name => exact evolves_onCollector session _ _
  | summary target => exact evolves_onCollector session _ _
  | clear target => exact evolves_onCollector session _ _
  | tokenize name source options => exact evolves_onCollector session _ _

end Lexer.Lasting

namespace Session

/-! ## Any number of commands -/

/-- The session after commands, one after the other. -/
def performAll (session : Session) (commands : List Command) : Session :=
  commands.foldl (fun session command => (session.perform command).2) session

theorem performAll_append (session : Session) (earlier later : List Command) :
    session.performAll (earlier ++ later) = (session.performAll earlier).performAll later :=
  List.foldl_append

theorem samePlaces_performAll {commands : List Command}
    (hcommands : ∀ command ∈ commands, command.makesPlace = false) (session : Session) :
    session.SamePlaces (session.performAll commands) := by
  induction commands generalizing session with
  | nil => exact .refl session
  | cons command commands ih =>
    have hfirst := samePlaces_perform (hcommands command List.mem_cons_self) session
    have hrest := ih (fun command hmem => hcommands command (List.mem_cons_of_mem _ hmem))
      (session.perform command).2
    exact hfirst.trans hrest

end Session

theorem Lexer.Lasting.performAll {related : Lexer → Lexer → Prop} (h : Lasting related)
    (session : Session) (commands : List Session.Command)
    (hchange : ∀ name change, .change name change ∈ commands →
      ∀ lexer, related lexer { lexer with options := lexer.options.apply change }) :
    session.Evolves related (session.performAll commands) := by
  induction commands generalizing session with
  | nil => exact .refl session
  | cons command commands ih =>
    have hfirst := h.perform session command fun name change hcommand =>
      hchange name change (hcommand ▸ List.mem_cons_self)
    have hrest := ih (session.perform command).2 fun name change hmem =>
      hchange name change (List.mem_cons_of_mem _ hmem)
    exact hfirst.trans hrest

namespace Session

/-! ## Lexers stay in their places -/

/-- Whatever a session becomes, no lexer is lost, and each is related to what it was. -/
theorem Evolves.relates {related : Lexer → Lexer → Prop} (h : Lexer.Lasting related)
    {first second : Session} (hevolves : first.Evolves related second) :
    first.Relates related second := by
  induction hevolves with
  | trans _ _ hfirst hsecond =>
    intro place seat hseat
    obtain ⟨moved, hmoved, hcollector, hrelated⟩ := hfirst place seat hseat
    obtain ⟨further, hfurther, hcollector', hrelated'⟩ := hsecond place moved hmoved
    exact ⟨further, hfurther, hcollector'.trans hcollector, h.trans hrelated hrelated'⟩
  | @updateSeat session place seat lexer collector hseat hlexer =>
    intro other found hfound
    by_cases hother : place = other
    · subst hother
      obtain rfl : seat = found := Option.some.inj (hseat.symm.trans hfound)
      exact ⟨_, getElem?_seats_updateSeat_self hseat, rfl, hlexer⟩
    · refine ⟨found, ?_, rfl, h.refl found.lexer⟩
      rw [getElem?_seats_updateSeat_of_ne hother, hfound]
  | @addLexer session name lexer collector =>
    intro place seat hseat
    have hinside : place < session.seats.size := (Array.getElem?_eq_some_iff.1 hseat).1
    refine ⟨seat, ?_, rfl, h.refl seat.lexer⟩
    show (session.seats.push ⟨lexer, collector⟩)[place]? = some seat
    rw [Array.getElem?_push_lt hinside, ← hseat, Array.getElem?_eq_getElem hinside]
  | _ => exact fun place seat hseat => ⟨seat, hseat, rfl, h.refl seat.lexer⟩

/-- Whatever commands ask for, no lexer goes back. -/
theorem leadsTo_performAll (session : Session) (commands : List Command) :
    session.LeadsTo (session.performAll commands) := by
  have hlasting := Lexer.lasting_leadsTo
  have hevolves := hlasting.performAll session commands fun _ _ _ lexer => .refl lexer.cursor
  intro place seat hseat
  obtain ⟨moved, hmoved, -, hcursor⟩ := hevolves.relates hlasting place seat hseat
  exact ⟨moved, hmoved, hcursor⟩

/-! ## Collectors are where they are said to be -/

/-- A session in which nothing refers to a collector that is not there. -/
structure Sound (session : Session) : Prop where
  name_lt : ∀ name place, session.collectorNames.lookup name = some place →
    place < session.collectors.size
  seat_lt : ∀ (place : Nat) (seat : Seat), session.seats[place]? = some seat →
    seat.collector < session.collectors.size

theorem Sound.empty : ({} : Session).Sound where
  name_lt _ _ h := by cases h
  seat_lt _ _ h := by cases h

/-- Whatever a sound session becomes, it stays sound. -/
theorem Evolves.sound {related : Lexer → Lexer → Prop} {first second : Session}
    (h : first.Evolves related second) (hsound : first.Sound) : second.Sound := by
  induction h with
  | trans _ _ hfirst hsecond => exact hsecond (hfirst hsound)
  | @updateSeat session place seat lexer collector hseat _ =>
    have hsize : (session.updateSeat place { seat with lexer := lexer } collector).collectors.size
        = session.collectors.size := Array.size_setIfInBounds
    refine ⟨?_, ?_⟩
    · rw [hsize]
      exact hsound.name_lt
    · intro other found hfound
      rw [hsize]
      by_cases hother : place = other
      · subst hother
        rw [getElem?_seats_updateSeat_self hseat] at hfound
        obtain rfl := Option.some.inj hfound
        exact hsound.seat_lt place seat hseat
      · rw [getElem?_seats_updateSeat_of_ne hother] at hfound
        exact hsound.seat_lt other found hfound
  | updateCollector session place collector =>
    have hsize : (session.updateCollector place collector).collectors.size
        = session.collectors.size := Array.size_setIfInBounds
    refine ⟨?_, ?_⟩
    · rw [hsize]
      exact hsound.name_lt
    · rw [hsize]
      exact hsound.seat_lt
  | addCollector session collector =>
    have hsize : (session.addCollector collector).collectors.size
        = session.collectors.size + 1 := Array.size_push collector
    refine ⟨?_, ?_⟩
    · intro name place hname
      rw [hsize]
      exact Nat.lt_succ_of_lt (hsound.name_lt name place hname)
    · intro place seat hseat
      rw [hsize]
      exact Nat.lt_succ_of_lt (hsound.seat_lt place seat hseat)
  | @addLexer session name lexer collector hcollector =>
    refine ⟨hsound.name_lt, ?_⟩
    intro place seat hseat
    have hpush : (session.seats.push ⟨lexer, collector⟩)[place]? = some seat := hseat
    rw [Array.getElem?_push] at hpush
    split at hpush
    · obtain rfl := Option.some.inj hpush
      rcases hcollector with hplace | ⟨other, hother⟩
      · exact hplace
      · exact hsound.name_lt other collector hother
    · exact hsound.seat_lt place seat hpush
  | @nameCollector session name collector hcollector =>
    refine ⟨?_, hsound.seat_lt⟩
    intro other place hplace
    by_cases hother : other = name
    · subst hother
      rw [Bindings.lookup_bind_self] at hplace
      obtain rfl := Option.some.inj hplace
      exact hcollector
    · rw [Bindings.lookup_bind_of_ne hother] at hplace
      exact hsound.name_lt other place hplace
  | forgetCollector session name =>
    refine ⟨?_, hsound.seat_lt⟩
    intro other place hplace
    exact hsound.name_lt other place (Bindings.lookup_of_lookup_unbind hplace)
  | _ => exact ⟨hsound.name_lt, hsound.seat_lt⟩

/-- Commands never lead to a session in which a collector is missing. -/
theorem sound_performAll (commands : List Command) :
    (({} : Session).performAll commands).Sound := by
  have hlasting := Lexer.lasting_leadsTo
  have hevolves := hlasting.performAll {} commands fun _ _ _ lexer => .refl lexer.cursor
  exact hevolves.sound .empty

end Session
end SourceLexer
