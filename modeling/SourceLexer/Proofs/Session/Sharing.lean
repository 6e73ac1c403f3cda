import SourceLexer.Proofs.Policy
import SourceLexer.Proofs.Session.Separation
import SourceLexer.Proofs.Session.Turns

/-!
# Sharing a collector

Several lexers report to one collector, diagnostics are added to it directly, and it is emptied now
and then.  What it holds depends on all of them, and so does which call fails when there is a limit.
Nothing else does: each lexer finds what it would find if it were alone.

## Keeping an account

`Session.Account` says what the collector holds without looking at it.  It counts the calls on every
lexer and puts down for each call what the call of that number reports when the lexer is alone, with
a collector that nobody else knows and that has no limit (`Lexer.reportsAt`).  The collector agrees
with the account at every moment (`Session.Shares.performAll`).

The obvious account would put down what the call itself reports, and then it would say nothing about
the other lexers.
-/

namespace SourceLexer

/-! ## A call beside the same call with another collector -/

namespace Lexer

/-- What a lexer moves on over does not depend on its collector. -/
theorem lexer_next_eq (lexer : Lexer) (collector other : Collector) :
    (lexer.next collector).lexer = (lexer.next other).lexer := by
  cases hclosed : lexer.closed with
  | true => rw [next_of_closed hclosed, next_of_closed hclosed]
  | false => rw [next_of_open hclosed, next_of_open hclosed]

section

variable {lexer : Lexer} (hopen : lexer.closed = false) (hstrict : lexer.options.strict = false)

include hopen hstrict

/-- A call reports the diagnostic of its scan behind what the collector holds. -/
theorem toList_next (collector : Collector) :
    (lexer.next collector).collector.toList
      = collector.toList ++ (lexer.cursor.scan lexer.options).diagnostic.toList := by
  rw [next_of_open hopen, hstrict, collector_settle, if_neg Bool.false_ne_true,
    Collector.toList_foldl_push]

theorem next_follows (collector : Collector) {plain : Collector} (hplain : plain.limit = none) :
    (lexer.next collector).Follows false collector.limit collector plain (lexer.next plain) := by
  have hcursor := congrArg cursor (lexer_next_eq lexer collector plain)
  have hsettle : ∀ held : Collector, ((lexer.next held).outcome, (lexer.next held).collector)
      = settle false (lexer.cursor.scan lexer.options) held := by
    intro held
    rw [next_of_open hopen, hstrict]
  exact settle_follows (Cursor.coherent_scan _ _) hcursor (hsettle collector) (hsettle plain) hplain

end

/-! ## A lexer alone -/

/-- The lexer after some calls, if it is alone. -/
def alone (lexer : Lexer) (calls : Nat) : Lexer × Collector :=
  stateBefore (fun _ => lexer.options) lexer {} calls

/-- What the call of a number reports, if the lexer is alone. -/
def reportsAt (lexer : Lexer) (call : Nat) : List Diagnostic :=
  (callAt (fun _ => lexer.options) lexer {} call).collector.toList.drop
    (lexer.alone call).2.size

theorem alone_succ (lexer : Lexer) (call : Nat) (collector : Collector) :
    (lexer.alone (call + 1)).1 = ((lexer.alone call).1.next collector).lexer := by
  rw [alone, stateBefore_succ_of_const]
  exact lexer_next_eq _ _ _

theorem options_alone (lexer : Lexer) (calls : Nat) :
    (lexer.alone calls).1.options = lexer.options :=
  options_stateBefore calls

theorem closed_alone {lexer : Lexer} (hopen : lexer.closed = false) (calls : Nat) :
    (lexer.alone calls).1.closed = false :=
  closed_stateBefore hopen calls

/-- Whatever a collector holds, a call adds to it what it reports when the lexer is alone. -/
theorem toList_next_alone {lexer : Lexer} (hopen : lexer.closed = false)
    (hstrict : lexer.options.strict = false) (call : Nat) (collector : Collector) :
    ((lexer.alone call).1.next collector).collector.toList
      = collector.toList ++ lexer.reportsAt call := by
  have hopen' := closed_alone hopen call
  have hstrict' : (lexer.alone call).1.options.strict = false := by rw [options_alone, hstrict]
  have hreports : lexer.reportsAt call
      = ((lexer.alone call).1.next (lexer.alone call).2).collector.toList.drop
          (lexer.alone call).2.size := rfl
  rw [hreports, toList_next hopen' hstrict', toList_next hopen' hstrict',
    ← Collector.length_toList, List.drop_left]

end Lexer

namespace Session

/-! ## The account of a collector -/

/-- A command that takes a token, or that adds to a collector or empties it. -/
inductive Command.Records : Command → Prop where
  | next (name : String) : Records (.next name)
  | report (name : String) (diagnostic : Diagnostic) : Records (.report name (.ok diagnostic))
  | clear (target : Target) : Records (.clear target)

/-- What is known of a collector from the commands so far. -/
structure Account where
  /-- How often the lexer at a place was called. -/
  calls : Nat → Nat := fun _ => 0
  entries : List Diagnostic

/-- The lexer that a command takes a token from. -/
def called? (session : Session) : Command → Option Nat
  | .next name => session.lexerNames.lookup name
  | _ => none

/-- Whether a command empties the collector that it is about. -/
def Command.empties : Command → Bool
  | .clear _ => true
  | _ => false

namespace Account

/-- What a command adds to the collector that it is about. -/
def adds (account : Account) (session : Session) : Command → List Diagnostic
  | .next name =>
    match session.lexerNames.lookup name with
    | none => []
    | some place =>
      match session.seats[place]? with
      | none => []
      | some seat => seat.lexer.reportsAt (account.calls place)
  | .report _ (.ok diagnostic) => [diagnostic]
  | _ => []

/-- The account of the collector at a place after one more command. -/
def after (session : Session) (slot : Nat) (account : Account) (command : Command) : Account where
  calls place := account.calls place + if session.called? command = some place then 1 else 0
  entries :=
    if session.slotOf? command = some slot then
      if command.empties then [] else account.entries ++ account.adds session command
    else account.entries

variable {session : Session} {slot place : Nat} {account : Account} {command : Command}

theorem calls_after_self (h : session.called? command = some place) :
    (account.after session slot command).calls place = account.calls place + 1 := by
  simp only [after, if_pos h]

theorem calls_after_of_ne (h : session.called? command ≠ some place) :
    (account.after session slot command).calls place = account.calls place := by
  simp only [after, if_neg h, Nat.add_zero]

theorem entries_after_of_ne (h : session.slotOf? command ≠ some slot) :
    (account.after session slot command).entries = account.entries := by
  simp only [after, if_neg h]

theorem entries_after_of_empties (h : session.slotOf? command = some slot)
    (hempties : command.empties = true) : (account.after session slot command).entries = [] := by
  simp only [after, if_pos h, if_pos hempties]

theorem entries_after_of_adds (h : session.slotOf? command = some slot)
    (hempties : command.empties = false) :
    (account.after session slot command).entries
      = account.entries ++ account.adds session command := by
  simp only [after, if_pos h, hempties, if_neg Bool.false_ne_true]

end Account

/-- The account of the collector at a place after some commands.  It begins with what the collector
holds and then looks at nothing but the names, and at the lexers as they were. -/
def account (session : Session) (slot : Nat) (commands : List Command) : Account :=
  commands.foldl (Account.after session slot) { entries := (session.collectorAt slot).toList }

/-- All lexers that report to the collector at a place are open, and none is strict. -/
def LenientAt (session : Session) (slot : Nat) : Prop :=
  ∀ (place : Nat) (seat : Seat), session.seats[place]? = some seat → seat.collector = slot →
    seat.lexer.closed = false ∧ seat.lexer.options.strict = false

theorem eq_ok_of_toOption {α : Type} {result : Except Failure α} {value : α}
    (h : result.toOption = some value) : result = .ok value := by
  cases result with
  | error failure => cases h
  | ok found => exact congrArg Except.ok (Option.some.inj h)

/-! ## What one command does -/

section

variable {session now : Session} {slot place : Nat} {name : String} {seat : Seat}
  {held : Collector}

theorem perform_report (hname : now.collectorNames.lookup name = some slot)
    (hheld : now.collectors[slot]? = some held) (diagnostic : Diagnostic) :
    now.perform (.report name (.ok diagnostic)) =
      ((held.report diagnostic).1.map fun () => .done,
        now.updateCollector slot (held.push diagnostic)) := by
  have hplace : now.placeOf (.collector name) = .ok slot := resolve_eq_ok_iff.2 hname
  simp only [perform, onCollector, hplace, collectorAt_of_getElem? hheld, Collector.snd_report]

theorem perform_clear {target : Target} (hplace : now.placeOf target = .ok slot)
    (hheld : now.collectors[slot]? = some held) :
    now.perform (.clear target) = (.ok .done, now.updateCollector slot held.clear) := by
  simp only [perform, onCollector, hplace, collectorAt_of_getElem? hheld]

theorem perform_next (hname : now.lexerNames.lookup name = some place)
    (hseat : now.seats[place]? = some seat)
    (hheld : now.collectors[seat.collector]? = some held) :
    now.perform (.next name) =
      ((seat.lexer.next held).outcome.map .token,
        now.updateSeat place { seat with lexer := (seat.lexer.next held).lexer }
          (seat.lexer.next held).collector) := by
  have hcall : now.perform (.next name) = _ := call_eq_of_lookup hname hseat Call.next
  rw [collectorAt_of_getElem? hheld] at hcall
  exact hcall

theorem getElem?_updateCollector (hslot : slot < now.collectors.size) (collector : Collector) :
    (now.updateCollector slot collector).collectors[slot]? = some collector :=
  Array.getElem?_setIfInBounds_self_of_lt hslot

/-! ## The account is right -/

/-- A session after some commands, with the account of the collector at a place: the collector holds
what the account says, and each lexer that reports to it has come to where as many calls bring it
when it is alone. -/
structure Shares (session : Session) (slot : Nat) (account : Account) (now : Session) : Prop where
  places : session.SamePlaces now
  exists_held : ∃ held, now.collectors[slot]? = some held ∧ held.toList = account.entries
    ∧ held.limit = (session.collectorAt slot).limit
  lexers : ∀ (place : Nat) (seat : Seat), session.seats[place]? = some seat →
    seat.collector = slot → now.seats[place]?
      = some { seat with lexer := (seat.lexer.alone (account.calls place)).1 }

namespace Shares

variable {account : Account} {command : Command}

theorem start (hslot : slot < session.collectors.size) :
    session.Shares slot { entries := (session.collectorAt slot).toList } session where
  places := .refl session
  exists_held := ⟨_, getElem?_collectors hslot, rfl, rfl⟩
  lexers _ _ hseat _ := hseat

/-- What a command is about can be told from the session that the account began with. -/
theorem slotOf?_eq (h : session.Shares slot account now) (hrecords : command.Records) :
    now.slotOf? command = session.slotOf? command := by
  have hreports : now.reportsTo? = session.reportsTo? := funext h.places.reportsTo?_eq
  cases hrecords with
  | next name => rw [slotOf?, slotOf?, h.places.lexerNames_eq, hreports]
  | report name diagnostic => rw [slotOf?, slotOf?, h.places.collectorNames_eq]
  | clear target => rw [slotOf?, slotOf?, h.places.placeOf_eq]

/-- Commands that are about others do not touch what the account is about. -/
theorem perform_of_ne (h : session.Shares slot account now) (hrecords : command.Records)
    (hother : session.slotOf? command ≠ some slot) :
    session.Shares slot (account.after session slot command) (now.perform command).2 := by
  have hnames : command.givesName = false := by cases hrecords <;> rfl
  have hconcerns : now.concerns slot command = false := by
    rw [concerns, hnames, h.slotOf?_eq hrecords]
    simpa using hother
  have hagree := agreeAt_perform hconcerns
  obtain ⟨held, hheld, hentries, hlimit⟩ := h.exists_held
  refine ⟨h.places.trans hagree.places, ⟨held, hagree.collectors.trans hheld, ?_, hlimit⟩, ?_⟩
  · rw [Account.entries_after_of_ne hother, hentries]
  · intro place seat hseat hcollector
    have hreports : session.reportsTo? place = some slot := by
      rw [reportsTo?_of_seat hseat, hcollector]
    -- a call on a lexer that reports here would be about this collector
    have hcalled : session.called? command ≠ some place := by
      intro hcalled
      cases hrecords with
      | next name =>
        have hname : session.lexerNames.lookup name = some place := hcalled
        rw [slotOf?, hname, Option.bind_some] at hother
        exact hother hreports
      | report | clear => cases hcalled
    rw [hagree.seats place ((h.places.reportsTo?_eq place).trans hreports),
      h.lexers place seat hseat hcollector, Account.calls_after_of_ne hcalled]

/-- A lexer that shares the collector, as a call finds it. -/
theorem perform_next (h : session.Shares slot account now)
    (hname : session.lexerNames.lookup name = some place)
    (hseat : session.seats[place]? = some seat) (hslot : seat.collector = slot)
    (hheld : now.collectors[slot]? = some held) :
    now.perform (.next name) =
      ((((seat.lexer.alone (account.calls place)).1.next held).outcome.map .token),
        now.updateSeat place
          { seat with lexer := ((seat.lexer.alone (account.calls place)).1.next held).lexer }
          ((seat.lexer.alone (account.calls place)).1.next held).collector) := by
  have hname' : now.lexerNames.lookup name = some place := by rw [h.places.lexerNames_eq, hname]
  have hheld' : now.collectors[seat.collector]? = some held := by rw [hslot, hheld]
  exact Session.perform_next hname' (h.lexers place seat hseat hslot) hheld'

theorem next (h : session.Shares slot account now) (hlenient : session.LenientAt slot)
    (hname : session.lexerNames.lookup name = some place)
    (hseat : session.seats[place]? = some seat) (hslot : seat.collector = slot) :
    session.Shares slot (account.after session slot (.next name)) (now.perform (.next name)).2 := by
  obtain ⟨held, hheld, hentries, hlimit⟩ := h.exists_held
  obtain ⟨hopen, hstrict⟩ := hlenient place seat hseat hslot
  have habout : session.slotOf? (.next name) = some slot := by
    rw [slotOf?, hname, Option.bind_some, reportsTo?_of_seat hseat, hslot]
  have hcalled : session.called? (.next name) = some place := hname
  have hnow := h.lexers place seat hseat hslot
  have hinside : seat.collector < now.collectors.size :=
    hslot ▸ (Array.getElem?_eq_some_iff.1 hheld).1
  rw [h.perform_next hname hseat hslot hheld]
  refine ⟨h.places.trans (samePlaces_updateSeat hnow _ _),
    ⟨((seat.lexer.alone (account.calls place)).1.next held).collector, ?_, ?_, ?_⟩, ?_⟩
  · rw [← hslot]
    exact getElem?_collectors_updateSeat_self hinside
  · -- what the call adds is what it adds alone, though the collectors differ
    rw [Lexer.toList_next_alone hopen hstrict, Account.entries_after_of_adds habout rfl, hentries]
    simp only [Account.adds, hname, hseat]
  · rw [Lexer.limit_next, hlimit]
  · intro other found hfound hshares
    by_cases hother : place = other
    · subst hother
      obtain rfl : seat = found := Option.some.inj (hseat.symm.trans hfound)
      rw [getElem?_seats_updateSeat_self hnow, Account.calls_after_self hcalled,
        Lexer.alone_succ _ _ held]
    · have helse : session.called? (.next name) ≠ some other := by
        rw [hcalled]
        exact fun hsame => hother (Option.some.inj hsame)
      rw [getElem?_seats_updateSeat_of_ne hother, Account.calls_after_of_ne helse]
      exact h.lexers other found hfound hshares

/-- A command that has changed the collector only. -/
theorem updateCollector (h : session.Shares slot account now) {collector : Collector}
    (hentries : collector.toList = (account.after session slot command).entries)
    (hlimit : collector.limit = (session.collectorAt slot).limit)
    (hcalled : session.called? command = none) :
    session.Shares slot (account.after session slot command)
      (now.updateCollector slot collector) := by
  obtain ⟨held, hheld, -⟩ := h.exists_held
  have hinside : slot < now.collectors.size := (Array.getElem?_eq_some_iff.1 hheld).1
  have hsize : (now.updateCollector slot collector).collectors.size = now.collectors.size :=
    Array.size_setIfInBounds
  refine ⟨⟨h.places.lexerNames_eq, h.places.collectorNames_eq, h.places.reportsTo?_eq,
    hsize.trans h.places.size_eq⟩,
    ⟨collector, getElem?_updateCollector hinside collector, hentries, hlimit⟩, ?_⟩
  intro place seat hseat hslot
  have hnone : session.called? command ≠ some place := by
    rw [hcalled]
    exact nofun
  rw [Account.calls_after_of_ne hnone]
  exact h.lexers place seat hseat hslot

/-- Whatever the next command is, the account goes on being right. -/
theorem perform (h : session.Shares slot account now) (hlenient : session.LenientAt slot)
    (hrecords : command.Records) :
    session.Shares slot (account.after session slot command) (now.perform command).2 := by
  by_cases habout : session.slotOf? command = some slot
  · obtain ⟨held, hheld, hentries, hlimit⟩ := h.exists_held
    cases hrecords with
    | next name =>
      rw [slotOf?] at habout
      obtain ⟨place, hname, hreports⟩ := Option.bind_eq_some_iff.1 habout
      obtain ⟨seat, hseat, hslot⟩ := exists_seat_of_reportsTo? hreports
      exact h.next hlenient hname hseat hslot
    | report name diagnostic =>
      have hname : now.collectorNames.lookup name = some slot := by
        rw [h.places.collectorNames_eq]
        exact habout
      rw [perform_report hname hheld]
      refine h.updateCollector ?_ hlimit rfl
      rw [Account.entries_after_of_adds habout rfl, Collector.toList_push, hentries]
      rfl
    | clear target =>
      have hplace : now.placeOf target = .ok slot := by
        rw [h.places.placeOf_eq]
        exact eq_ok_of_toOption habout
      rw [perform_clear hplace hheld]
      refine h.updateCollector ?_ hlimit rfl
      rw [Account.entries_after_of_empties habout rfl, Collector.toList_clear]
  · exact h.perform_of_ne hrecords habout

theorem performAll (hlenient : session.LenientAt slot) {commands : List Command}
    (h : session.Shares slot account now) (hrecords : ∀ command ∈ commands, command.Records) :
    session.Shares slot (commands.foldl (Account.after session slot) account)
      (now.performAll commands) := by
  induction commands generalizing account now with
  | nil => exact h
  | cons command commands ih =>
    have hfirst := h.perform hlenient (hrecords command List.mem_cons_self)
    exact ih hfirst fun command hmem => hrecords command (List.mem_cons_of_mem _ hmem)

end Shares

end

/-! ## Lexers that share a collector -/

/-- A collector and all who use it, after some commands, beside the account of it.  A call on a
lexer changes only that lexer and the collector, and it follows the call of the same number on the
lexer alone; a diagnostic that is added is held, even if that fails because the limit is reached. -/
structure Shared (session : Session) (slot : Nat) (account : Account) (now : Session)
    (held : Collector) : Prop where
  holds : now.collectors[slot]? = some held
  toList_eq : held.toList = account.entries
  limit_eq : held.limit = (session.collectorAt slot).limit
  lexers : ∀ (place : Nat) (seat : Seat), session.seats[place]? = some seat →
    seat.collector = slot → now.seats[place]?
      = some { seat with lexer := (seat.lexer.alone (account.calls place)).1 }
  next : ∀ name place seat, session.lexerNames.lookup name = some place →
    session.seats[place]? = some seat → seat.collector = slot →
    ∃ step : Lexer.Step Token,
      now.perform (.next name) = (step.outcome.map .token,
          now.updateSeat place { seat with lexer := step.lexer } step.collector)
        ∧ step.Follows false held.limit held (seat.lexer.alone (account.calls place)).2
          (Lexer.callAt (fun _ => seat.lexer.options) seat.lexer {} (account.calls place))
  report : ∀ name diagnostic, session.collectorNames.lookup name = some slot →
    (now.perform (.report name (.ok diagnostic))).2
        = now.updateCollector slot (held.push diagnostic)
      ∧ (∀ limit, held.limit = some limit → limit ≤ held.size + 1 →
        (now.perform (.report name (.ok diagnostic))).1 = .error (.limitReached limit))
      ∧ ((∀ limit, held.limit = some limit → held.size + 1 < limit) →
        (now.perform (.report name (.ok diagnostic))).1 = .ok .done)
  clear : ∀ target, session.placeOf target = .ok slot →
    now.perform (.clear target) = (.ok .done, now.updateCollector slot held.clear)

theorem Shares.exists_shared {session now : Session} {slot : Nat} {account : Account}
    (h : session.Shares slot account now) (hlenient : session.LenientAt slot) :
    ∃ held, session.Shared slot account now held := by
  obtain ⟨held, hheld, hentries, hlimit⟩ := h.exists_held
  refine ⟨held, hheld, hentries, hlimit, h.lexers, ?_, ?_, ?_⟩
  · intro name place seat hname hseat hslot
    obtain ⟨hopen, hstrict⟩ := hlenient place seat hseat hslot
    have hopen' := Lexer.closed_alone hopen (account.calls place)
    have hstrict' : (seat.lexer.alone (account.calls place)).1.options.strict = false := by
      rw [Lexer.options_alone, hstrict]
    have hplain : (seat.lexer.alone (account.calls place)).2.limit = none :=
      Lexer.limit_stateBefore (account.calls place)
    exact ⟨_, h.perform_next hname hseat hslot hheld,
      Lexer.next_follows hopen' hstrict' held hplain⟩
  · intro name diagnostic hname
    rw [← h.places.collectorNames_eq] at hname
    rw [perform_report hname hheld]
    refine ⟨rfl, fun limit hlimit hle => ?_, fun hlt => ?_⟩
    · rw [Collector.report_of_limit_le hlimit hle]
      rfl
    · rw [Collector.report_of_lt_limit hlt]
      rfl
  · intro target hplace
    rw [← h.places.placeOf_eq] at hplace
    exact perform_clear hplace hheld

/-- **Lexers share a collector and nothing else.**  Lexers that are not strict report to one
collector, and any commands take tokens, add diagnostics and empty collectors.  At every moment the
collector holds what was reported and added since it was emptied, in order, and a call that fills it
fails.  Every lexer goes the way that it goes alone.  And in any session whatsoever, those who have
to do with one collector do not notice whether commands about other collectors and their lexers are
performed. -/
theorem collector_shared {session : Session} {slot : Nat}
    (hslot : slot < session.collectors.size) (hlenient : session.LenientAt slot)
    {commands : List Command} (hrecords : ∀ command ∈ commands, command.Records) :
    (∃ held, session.Shared slot (session.account slot commands) (session.performAll commands)
        held)
      ∧ ∀ (other : Session) (here : Nat) (all : List Command),
        let whole := other.performAll all
        let part := other.performAll (without here other all)
        whole.AgreeAt here part
          ∧ ∀ command, whole.concerns here command = true →
            (part.perform command).1 = (whole.perform command).1 := by
  refine ⟨?_, fun other here all => ?_⟩
  · have hshares := (Shares.start hslot).performAll hlenient hrecords
    exact hshares.exists_shared hlenient
  · intro whole part
    have hagree := (AgreeAt.refl here other).performAll_without all
    exact ⟨hagree, fun command hconcerns => (hagree.perform hconcerns).1⟩

/-- Two lexers fill a collector, so that the second one fails; after the collector was emptied it
goes on behind its bad text. -/
theorem collector_shared_after_clear :
    let session := ({} : Session).performAll
      [.collect "c" (some 2), .create "a" (.text "@ x") {} (some "c"),
        .create "b" (.text "# $") {} (some "c")]
    let commands : List Command := [.next "a", .next "b", .clear (.collector "c"), .next "a"]
    0 < session.collectors.size ∧ session.LenientAt 0
      ∧ (∀ command ∈ commands, command.Records)
      ∧ ((session.performAll commands).perform (.next "b")).1
          = .ok (.token ⟨.error, some "$", 1, 3, "<input>"⟩) := by
  intro session commands
  have hslot : 0 < session.collectors.size := by decide +kernel
  have hlenient : session.LenientAt 0 := by
    intro place seat hseat _
    have hall : session.seats.all
        (fun seat => !seat.lexer.closed && !seat.lexer.options.strict) = true := by decide +kernel
    have hseat := Array.all_eq_true_iff_forall_mem.1 hall seat (Array.mem_of_getElem? hseat)
    simpa using hseat
  have hrecords : ∀ command ∈ commands, command.Records := by
    simp only [commands, List.mem_cons, List.not_mem_nil, or_false]
    rintro command (rfl | rfl | rfl | rfl)
    · exact .next "a"
    · exact .next "b"
    · exact .clear _
    · exact .next "a"
  obtain ⟨⟨held, hshared⟩, -⟩ := collector_shared hslot hlenient hrecords
  have hname : session.lexerNames.lookup "b" = some 1 := by decide +kernel
  have hfound : session.seats[1]?.map (fun seat => (seat.lexer, seat.collector))
      = some (Lexer.fresh {} "# $".toList, 0) := by decide +kernel
  obtain ⟨seat, hseat, hpair⟩ := Option.map_eq_some_iff.1 hfound
  obtain ⟨hlexer, hcollector⟩ := Prod.mk.inj hpair
  obtain ⟨step, hperform, hfollows⟩ := hshared.next "b" 1 seat hname hseat hcollector
  have hcalls : (session.account 0 commands).calls 1 = 1 := by decide +kernel
  have hplain : (Lexer.callAt (fun _ => {}) (Lexer.fresh {} "# $".toList) {} 1).outcome
      = .ok ⟨.error, some "$", 1, 3, "<input>"⟩ := by decide +kernel
  rw [hlexer, hcalls] at hfollows
  obtain ⟨diagnostic, -, -, hlenient'⟩ := hfollows.of_error _ hplain rfl
  have hentries : (session.account 0 commands).entries = [] := by decide +kernel
  have hsize : held.size = 0 := by
    rw [← Collector.length_toList, hshared.toList_eq, hentries]
    rfl
  have hlimit : held.limit = some 2 := hshared.limit_eq.trans (by decide +kernel)
  obtain ⟨-, -, hroom⟩ := hlenient' rfl
  have houtcome := hroom fun most hmost => by
    rw [hlimit] at hmost
    obtain rfl := Option.some.inj hmost
    omega
  refine ⟨hslot, hlenient, hrecords, ?_⟩
  rw [hperform, houtcome]
  rfl

end Session
end SourceLexer
