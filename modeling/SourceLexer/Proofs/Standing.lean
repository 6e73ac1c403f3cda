import SourceLexer.Proofs.Session.Seats
import Mathlib.Data.List.GetD

/-!
# Where a lexer stands

A lexer shows four things of its place: how many characters it has passed, the character in front
of it, its line and its column.  Each of them is carried along, and each of them can be read off
the source and the first one.  `Cursor.StandsIn` says so, of a cursor that has come from the front
of the source in any number of steps.

## Peeking

To peek is to read the source at a place that is brought back into it, so it can fail for no
offset (`Cursor.exists_peek_eq`).  Up to the first end mark it shows what moving on would come to
(`Cursor.WellFormed.peek_eq_current_advanceBy`); further on it shows the source, where moving on
would have stopped.

## In a session

`Session.create_stands` says all of this of a lexer in a session, whatever commands come after the
one that has made it, and whether these are about the lexer or about others.
-/

namespace SourceLexer

/-! ## Cursors in a source -/

/-- A cursor in a source.  All that it shows can be read off the source and the index. -/
structure Cursor.StandsIn (cursor : Cursor) (source : List Char) : Prop where
  size_eq : cursor.size = source.length
  index_le : cursor.index ≤ source.length
  current_eq : cursor.current = source.getD cursor.index endMark
  endMark_notMem : endMark ∉ source.take cursor.index
  line_eq : cursor.line = lineAfter (source.take cursor.index)
  column_eq : cursor.column = columnAfter (source.take cursor.index)

namespace Cursor

/-- The front of the source up to the cursor is what has been passed. -/
theorem take_index_source (cursor : Cursor) :
    cursor.source.take cursor.index = cursor.before.reverse := by
  have hlength : cursor.before.reverse.length = cursor.index := List.length_reverse
  rw [source, List.append_assoc, ← hlength, List.take_left]

/-- The character at a distance is looked for in what has not been passed. -/
theorem getD_source_add (cursor : Cursor) (count : Nat) :
    cursor.source.getD (cursor.index + count) endMark
      = (cursor.live ++ cursor.beyond).getD count endMark := by
  rw [← drop_index_source, List.getD_eq_getElem?_getD, List.getD_eq_getElem?_getD,
    List.getElem?_drop]

/-- Where nothing is left to read the source shows an end mark, or nothing at all. -/
theorem WellFormed.current_eq_headD {cursor : Cursor} (h : cursor.WellFormed) :
    cursor.current = (cursor.live ++ cursor.beyond).headD endMark := by
  unfold current
  cases hlive : cursor.live with
  | cons char live => rfl
  | nil =>
    cases hbeyond : cursor.beyond with
    | nil => rfl
    | cons char beyond => exact (h.head?_beyond char (by rw [hbeyond]; rfl)).symm

/-- What a cursor keeps to is read off the source that it stands in. -/
theorem WellFormed.standsIn {cursor : Cursor} (h : cursor.WellFormed) :
    cursor.StandsIn cursor.source where
  size_eq := cursor.size_eq_length_source.symm
  index_le := by
    rw [size_eq_length_source, index, size]
    omega
  current_eq := by
    have hhead := cursor.getD_source_add 0
    rw [Nat.add_zero] at hhead
    rw [hhead, h.current_eq_headD]
    cases cursor.live ++ cursor.beyond <;> rfl
  endMark_notMem := by
    rw [take_index_source, List.mem_reverse]
    exact h.endMark_notMem_before
  line_eq := by rw [take_index_source, h.line_eq]
  column_eq := by rw [take_index_source, h.column_eq]

/-! ## Peeking -/

/-- What peeking shows stands in the source, at the place that is meant or, if that is outside, at
the nearest one that is not; the place behind the last character counts as an end mark. -/
theorem exists_peek_eq (cursor : Cursor) (offset : Int) :
    ∃ position ≤ cursor.size, (position : Int) = min (max (cursor.index + offset) 0) cursor.size
      ∧ cursor.peek offset = cursor.source.getD position endMark := by
  refine ⟨min (cursor.index + offset).toNat cursor.size, by omega, by omega, ?_⟩
  by_cases hinside : (cursor.index + offset).toNat ≤ cursor.size
  · rw [Nat.min_eq_left hinside]
    rfl
  · -- both places are behind the last character
    have hsize := cursor.size_eq_length_source
    rw [Nat.min_eq_right (by omega), peek, List.getD_eq_default _ _ (by omega),
      List.getD_eq_default _ _ (by omega)]

/-- Up to the first end mark peeking shows what moving on comes to. -/
theorem WellFormed.peek_eq_current_advanceBy {cursor : Cursor} (h : cursor.WellFormed)
    {count : Nat} (hmark : endMark ∉ (cursor.source.drop cursor.index).take count) :
    cursor.peek count = (cursor.advanceBy count).current := by
  have hmoved := (h.advanceBy count).standsIn.current_eq
  rw [source_advanceBy, index_advanceBy] at hmoved
  have hpeek : cursor.peek count = cursor.source.getD (cursor.index + count) endMark := by
    have hplace : ((cursor.index : Int) + count).toNat = cursor.index + count := by omega
    rw [peek, hplace]
  rw [hpeek, hmoved]
  by_cases hcount : count ≤ cursor.live.length
  · rw [Nat.min_eq_left hcount]
  · -- the source goes no further than the live text, so both places are behind its end
    have hbeyond : cursor.beyond = [] := by
      cases hfound : cursor.beyond with
      | nil => rfl
      | cons char beyond =>
        obtain rfl : char = endMark := h.head?_beyond char (by rw [hfound]; rfl)
        refine absurd ?_ hmark
        rw [drop_index_source, hfound, List.take_append, List.mem_append]
        obtain ⟨more, hmore⟩ : ∃ more, count - cursor.live.length = more + 1 :=
          ⟨count - cursor.live.length - 1, by omega⟩
        rw [hmore]
        exact .inr List.mem_cons_self
    rw [getD_source_add, getD_source_add, hbeyond, List.append_nil,
      List.getD_eq_default _ _ (by omega), List.getD_eq_default _ _ (by omega)]

end Cursor

namespace Lexer

/-- An open lexer moves on by as many characters as it is asked to. -/
theorem advance_of_open {lexer : Lexer} (hopen : lexer.closed = false) (count : Nat) :
    lexer.advance count = .ok { lexer with cursor := lexer.cursor.advanceBy count } := by
  obtain ⟨cursor, options, closed⟩ := lexer
  obtain rfl : closed = false := hopen
  cases count <;> rfl

/-- A new lexer stands at the front of its source. -/
theorem cursor_of_create {source : String} {options : Options} {collector : Option Collector}
    {lexer : Lexer} {held : Collector}
    (h : create (.text source) options collector = .ok (lexer, held)) :
    lexer.cursor = Cursor.ofText source.toList := by
  cases collector with
  | some collector =>
    cases h
    rfl
  | none =>
    have hcreate : create (.text source) options none
        = (Collector.ofLimit? options.maxErrors).map
            fun collector => (fresh options source.toList, collector) := by
      show (do
        let collector ← Collector.ofLimit? options.maxErrors
        return (fresh options source.toList, collector) : Except Failure (Lexer × Collector)) = _
      cases Collector.ofLimit? options.maxErrors <;> rfl
    rw [hcreate] at h
    cases hlimit : Collector.ofLimit? options.maxErrors with
    | error failure => rw [hlimit] at h; cases h
    | ok made => rw [hlimit] at h; cases h; rfl

end Lexer

namespace Session

/-! ## Commands about a lexer that has a name -/

section

variable {session : Session} {name : String} {place : Nat} {seat : Seat}

/-- Peeking answers and changes nothing at all. -/
theorem perform_peek (hname : session.lexerNames.lookup name = some place)
    (hseat : session.seats[place]? = some seat) (hopen : seat.lexer.closed = false)
    (offset : Int) :
    session.perform (.peek name offset) =
      (.ok (.char (seat.lexer.cursor.peek offset)), session) := by
  have hpeek : seat.lexer.peek offset = .ok (seat.lexer.cursor.peek offset) := by
    rw [Lexer.peek, Lexer.requireOpen, hopen]
    rfl
  show session.call name (Call.asking fun lexer => (lexer.peek offset).map .char) = _
  rw [call_eq_of_lookup hname hseat, Call.asking, hpeek, updateSeat_self hseat]
  rfl

/-- Moving on by one character moves the one lexer on and leaves the names as they are. -/
theorem perform_advance_one (hname : session.lexerNames.lookup name = some place)
    (hseat : session.seats[place]? = some seat) (hopen : seat.lexer.closed = false) :
    (session.perform (.advance name 1)).2.lexerNames = session.lexerNames
      ∧ (session.perform (.advance name 1)).2.seats[place]? =
          some { seat with lexer := { seat.lexer with cursor := seat.lexer.cursor.advance } } := by
  have hadvance := Lexer.advance_of_open hopen 1
  have hinside : place < session.seats.size := (Array.getElem?_eq_some_iff.1 hseat).1
  have hperform : session.perform (.advance name 1)
      = session.call name (Call.moving (·.advance 1)) := rfl
  rw [hperform, call_eq_of_lookup hname hseat, Call.moving, hadvance]
  exact ⟨rfl, Array.getElem?_setIfInBounds_self_of_lt hinside⟩

/-- So it is with any number of such commands. -/
theorem performAll_replicate_advance (hname : session.lexerNames.lookup name = some place)
    (hseat : session.seats[place]? = some seat) (hopen : seat.lexer.closed = false)
    (count : Nat) :
    (session.performAll (List.replicate count (.advance name 1))).seats[place]? =
      some { seat with
        lexer := { seat.lexer with cursor := seat.lexer.cursor.advanceBy count } } := by
  induction count generalizing session seat with
  | zero => exact hseat
  | succ count ih =>
    obtain ⟨hnames, hmoved⟩ := perform_advance_one hname hseat hopen
    rw [← hnames] at hname
    exact ih hname hmoved hopen

end

/-! ## A lexer in a session -/

/-- What peeking shows, in a session, of a lexer that stands in a source: the source around the
cursor, and up to the first end mark what as many steps of one character would come to.  The
session stays as it is. -/
structure Peeks (session : Session) (name : String) (place : Nat) (cursor : Cursor)
    (source : List Char) : Prop where
  shows : ∀ offset : Int, ∃ position ≤ source.length,
    (position : Int) = min (max (cursor.index + offset) 0) source.length
      ∧ session.perform (.peek name offset)
          = (.ok (.char (source.getD position endMark)), session)
  foresees : ∀ count : Nat, endMark ∉ (source.drop cursor.index).take count →
    ∃ moved, (session.performAll (List.replicate count (.advance name 1))).seats[place]?
          = some moved
      ∧ session.perform (.peek name count) = (.ok (.char moved.lexer.cursor.current), session)

theorem peeks_of_wellFormed {session : Session} {name : String} {place : Nat} {seat : Seat}
    (hname : session.lexerNames.lookup name = some place)
    (hseat : session.seats[place]? = some seat) (hopen : seat.lexer.closed = false)
    (hformed : seat.lexer.cursor.WellFormed) :
    session.Peeks name place seat.lexer.cursor seat.lexer.cursor.source where
  shows offset := by
    obtain ⟨position, hle, hposition, hpeek⟩ := seat.lexer.cursor.exists_peek_eq offset
    rw [hformed.standsIn.size_eq] at hle hposition
    refine ⟨position, hle, hposition, ?_⟩
    rw [perform_peek hname hseat hopen, hpeek]
  foresees count hmark := by
    refine ⟨_, performAll_replicate_advance hname hseat hopen count, ?_⟩
    rw [perform_peek hname hseat hopen, hformed.peek_eq_current_advanceBy hmark]

/-- Where making a lexer succeeds, it comes down to adding one at the front of its source. -/
theorem exists_addLexer_of_create {session : Session} {name source : String} {options : Options}
    {collector : Option String}
    (h : (session.create name (.text source) options collector).1 = .ok .done) :
    ∃ base lexer held, (session.create name (.text source) options collector).2
        = addLexer base name lexer held
      ∧ base.seats = session.seats ∧ lexer.cursor = Cursor.ofText source.toList := by
  obtain ⟨base, lexer, held, slot, hcreate, hcreated, -, hnone, hsome⟩ := create_eq_addLexer h
  refine ⟨base, lexer, slot, hcreated, ?_, Lexer.cursor_of_create hcreate⟩
  cases collector with
  | none => rw [(hnone rfl).1, addCollector]
  | some collector => rw [(hsome collector rfl).1]

/-- **A lexer always knows where it stands.**  A lexer is made in a session, and then commands are
performed, whatever they ask for and whether they fail.  The index of the lexer never goes back, and
what else it shows of its place can be read off its source and the index.  As long as it is open,
peeking shows the source around that place, and up to the first end mark what moving on would come
to; the session stays as it is. -/
theorem create_stands {session : Session} {name source : String} {options : Options}
    {collector : Option String}
    (h : (session.perform (.create name (.text source) options collector)).1 = .ok .done)
    (earlier later : List Command) :
    let created := (session.perform (.create name (.text source) options collector)).2
    let place := session.seats.size
    created.lexerNames.lookup name = some place
      ∧ ∃ seat moved, (created.performAll earlier).seats[place]? = some seat
        ∧ (created.performAll (earlier ++ later)).seats[place]? = some moved
        ∧ seat.lexer.cursor.StandsIn source.toList
        ∧ seat.lexer.cursor.index ≤ moved.lexer.cursor.index
        ∧ ∀ other, (created.performAll earlier).lexerNames.lookup other = some place →
            seat.lexer.closed = false →
            (created.performAll earlier).Peeks other place seat.lexer.cursor source.toList := by
  intro created place
  obtain ⟨base, lexer, held, hcreated, hseats, hcursor⟩ := exists_addLexer_of_create h
  obtain ⟨hname, hfront⟩ := base.lookup_addLexer name lexer held
  rw [hseats, ← hcreated] at hname hfront
  obtain ⟨seat, hseat, hmoves⟩ := created.leadsTo_performAll earlier place _ hfront
  obtain ⟨moved, hmoved, hmoves'⟩ :=
    (created.performAll earlier).leadsTo_performAll later place seat hseat
  have hmoves : (Cursor.ofText source.toList).LeadsTo seat.lexer.cursor := hcursor ▸ hmoves
  have hformed : seat.lexer.cursor.WellFormed := hmoves.wellFormed (.ofText source.toList)
  have hsource : seat.lexer.cursor.source = source.toList := by
    rw [hmoves.source_eq, Cursor.source_ofText]
  rw [← performAll_append] at hmoved
  refine ⟨hname, seat, moved, hseat, hmoved, ?_, hmoves'.index_le, ?_⟩
  · rw [← hsource]
    exact hformed.standsIn
  · intro other hother hopen
    rw [← hsource]
    exact peeks_of_wellFormed hother hseat hopen hformed

/-- A lexer inside of a quotation, in front of an escaped end mark and behind a call that has
failed; an iterator is about to fail as well. -/
theorem create_stands_inside_quotation :
    let made := ({} : Session).perform
      (.create "a" (.text "@\n'\\\x00z") { strict := true } none)
    let earlier : List Command :=
      [.next "a", .iterate "a" "i", .skipBlanks "a", .advance "a" 1]
    let later : List Command := [.step "i", .change "a" (.strict false), .next "a"]
    made.1 = .ok .done
      ∧ ∃ seat moved, (made.2.performAll earlier).seats[0]? = some seat
        ∧ (made.2.performAll (earlier ++ later)).seats[0]? = some moved
        ∧ seat.lexer.cursor.index = 3
        ∧ seat.lexer.cursor.StandsIn "@\n'\\\x00z".toList
        ∧ seat.lexer.cursor.index ≤ moved.lexer.cursor.index
        ∧ (made.2.performAll earlier).Peeks "a" 0 seat.lexer.cursor "@\n'\\\x00z".toList := by
  intro made earlier later
  have hmade : made.1 = .ok .done := rfl
  obtain ⟨-, seat, moved, hseat, hmoved, hstands, hindex, hpeeks⟩ :=
    create_stands hmade earlier later
  have hstate : (made.2.performAll earlier).seats[0]?.map
      (fun seat => (seat.lexer.cursor.index, seat.lexer.closed)) = some (3, false) := by
    decide +kernel
  have hfound : (made.2.performAll earlier).seats[0]? = some seat := hseat
  rw [hfound] at hstate
  obtain ⟨hthree, hopen⟩ := Prod.mk.inj (Option.some.inj hstate)
  have hname : (made.2.performAll earlier).lexerNames.lookup "a" = some 0 := by decide +kernel
  exact ⟨hmade, seat, moved, hseat, hmoved, hthree, hstands, hindex, hpeeks "a" hname hopen⟩

end Session
end SourceLexer
