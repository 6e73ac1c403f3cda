import SourceLexer.Proofs.Lexeme.Longest
import SourceLexer.Proofs.Reach

/-!
# Skipping blanks

Skipping goes over the longest gap at the front of what is left to read (`Lexeme.longest_gap`), and
`Lexeme.GapEnd` says what it can stop at.  No gap starts there, so skipping once more moves nothing
(`Cursor.skipBlanks_skipBlanks`).

A call for a token begins with skipping, and where blanks have been skipped before it finds none.
So it makes no difference how often they are (`Lexer.next_of_skipBlanks`).
-/

namespace SourceLexer

open Lexeme

namespace Lexeme

/-! ## The longest gap -/

/-- Where comments are wanted a gap is a run of blank characters. -/
theorem gap_true_iff {gap behind : List Char} :
    Gap true gap behind ↔ ∀ char ∈ gap, isBlank char = true := by
  constructor
  · intro h
    induction h with
    | nil => exact fun _ hchar => absurd hchar List.not_mem_nil
    | blank hblank _ ih => exact List.forall_mem_cons.2 ⟨hblank, ih⟩
    | comment hkeep _ _ _ => cases hkeep
  · intro h
    induction gap with
    | nil => exact .nil
    | cons char gap ih =>
      rw [List.forall_mem_cons] at h
      exact .blank h.1 (ih h.2)

/-- A gap at which no other gap is left is the longest one. -/
theorem longest_gap {keepComments : Bool} {gap behind : List Char}
    (hgap : Gap keepComments gap behind) (hstop : blanks keepComments behind = []) :
    Longest (Gap keepComments) (gap ++ behind) gap behind where
  text_eq := rfl
  hasForm := hgap
  length_le := by
    intro other rest hsplit hother
    -- both gaps are passed over as a whole, and the first one is all that is
    have hwhole := blanks_eq_of_gap hgap hstop
    rw [hsplit, blanks_append hother] at hwhole
    rw [← hwhole, List.length_append]
    exact Nat.le_add_right _ _

/-- What can stand where blanks have been skipped: nothing, a block comment that does not close, a
comment that is wanted, or a character that is not blank and starts no comment. -/
inductive GapEnd (keepComments : Bool) : List Char → Prop where
  | ended : GapEnd keepComments []
  | openComment {body : List Char} : ¬ Comment.closer <:+: body →
      GapEnd keepComments ('/' :: '*' :: body)
  | comment {comment behind : List Char} : keepComments = true →
      Comment.Complete comment behind → GapEnd keepComments (comment ++ behind)
  | lexeme {char : Char} {rest : List Char} : isBlank char = false →
      Comment.style? (char :: rest) = none → GapEnd keepComments (char :: rest)

theorem gapEnd_of_blanks_eq_nil {keepComments : Bool} {text : List Char}
    (h : blanks keepComments text = []) : GapEnd keepComments text := by
  cases text with
  | nil => exact .ended
  | cons char rest =>
    obtain ⟨hblank, hcomment⟩ := blanks_eq_nil_iff.1 h
    cases hstyle : Comment.style? (char :: rest) with
    | none => exact .lexeme hblank hstyle
    | some style =>
      cases hclosed : (Comment.read style (char :: rest)).closed with
      | false =>
        obtain ⟨-, -, body, htext, hbody⟩ := Comment.eq_block_of_open hstyle hclosed
        rw [htext]
        exact .openComment hbody
      | true =>
        obtain ⟨behind, htext, hcomplete⟩ := Comment.complete_of_closed hstyle hclosed
        have hkeep : keepComments = true := by
          rw [← Bool.not_eq_false]
          intro hskip
          refine hcomment hskip ?_
          rw [htext, Reading.read_of_complete hcomplete]
          rfl
        rw [htext]
        exact .comment hkeep hcomplete

end Lexeme

/-! ## Skipping with a cursor -/

namespace Cursor

variable {keepComments : Bool} {cursor : Cursor} {gap behind : List Char}

theorem skipBlanks_of_gap (hgap : Gap keepComments gap behind)
    (hstop : blanks keepComments behind = []) (hlive : cursor.live = gap ++ behind) :
    cursor.skipBlanks keepComments = cursor.advanceBy gap.length := by
  rw [skipBlanks, hlive, blanks_eq_of_gap hgap hstop]

/-- No blanks are left behind those that have been skipped. -/
theorem blanks_live_skipBlanks (keepComments : Bool) (cursor : Cursor) :
    blanks keepComments (cursor.skipBlanks keepComments).live = [] := by
  obtain ⟨gap, behind, hlive, hgap, hstop⟩ := exists_gap keepComments cursor.live
  rwa [skipBlanks_of_gap hgap hstop hlive, live_advanceBy, hlive, List.drop_left]

theorem skipBlanks_skipBlanks (keepComments : Bool) (cursor : Cursor) :
    (cursor.skipBlanks keepComments).skipBlanks keepComments = cursor.skipBlanks keepComments := by
  rw [skipBlanks, blanks_live_skipBlanks]
  rfl

/-- A scan finds the same behind the blanks. -/
theorem scan_skipBlanks (options : Options) (cursor : Cursor) :
    (cursor.skipBlanks options.keepComments).scan options = cursor.scan options := by
  rw [scan, skipBlanks_skipBlanks, scan]

end Cursor

namespace Lexer

variable {lexer start : Lexer}

/-! ## Skipping with a lexer -/

theorem skipBlanks_of_open (hopen : lexer.closed = false) :
    lexer.skipBlanks =
      .ok { lexer with cursor := lexer.cursor.skipBlanks lexer.options.keepComments } := by
  rw [skipBlanks, requireOpen, hopen]
  rfl

/-- Only an open lexer skips blanks, and nothing but the place changes. -/
theorem eq_of_skipBlanks (h : lexer.skipBlanks = .ok start) :
    lexer.closed = false
      ∧ start = { lexer with cursor := lexer.cursor.skipBlanks lexer.options.keepComments } := by
  have hopen : lexer.closed = false := by
    rw [← Bool.not_eq_true]
    intro hclosed
    rw [skipBlanks, requireOpen, hclosed] at h
    cases h
  rw [skipBlanks_of_open hopen] at h
  exact ⟨hopen, (Except.ok.inj h).symm⟩

/-- A call for a token comes to the same in front of the blanks and behind them. -/
theorem next_of_skipBlanks (h : lexer.skipBlanks = .ok start) (collector : Collector) :
    start.next collector = lexer.next collector := by
  obtain ⟨hopen, rfl⟩ := eq_of_skipBlanks h
  have hstart : (Lexer.mk (lexer.cursor.skipBlanks lexer.options.keepComments) lexer.options
      lexer.closed).closed = false := hopen
  rw [next_of_open hopen, next_of_open hstart, Cursor.scan_skipBlanks]

/-- Skips blanks a number of times over. -/
def skipBlanksTimes : Nat → Lexer → Except Failure Lexer
  | 0, lexer => .ok lexer
  | count + 1, lexer => lexer.skipBlanks >>= skipBlanksTimes count

/-- However often blanks are skipped, this does not fail, and the next call comes to the same. -/
theorem exists_skipBlanksTimes (hopen : lexer.closed = false) (count : Nat) :
    ∃ again, lexer.skipBlanksTimes count = .ok again
      ∧ ∀ collector, again.next collector = lexer.next collector := by
  induction count generalizing lexer with
  | zero => exact ⟨lexer, rfl, fun _ => rfl⟩
  | succ count ih =>
    have hskip := skipBlanks_of_open hopen
    have hmoved : (Lexer.mk (lexer.cursor.skipBlanks lexer.options.keepComments) lexer.options
        lexer.closed).closed = false := hopen
    obtain ⟨again, hagain, hnext⟩ := ih hmoved
    refine ⟨again, ?_, ?_⟩
    · rw [skipBlanksTimes, hskip]
      exact hagain
    · intro collector
      rw [hnext, next_of_skipBlanks hskip]

/-- **Skipping goes over the longest gap.**  Wherever calls have left an open lexer, skipping blanks
takes it behind the longest front of the rest of its source that is made of blank characters and,
unless they are wanted, of complete comments; the rest goes up to the first end mark.  It stops
where no gap can start, so that skipping again moves nothing, and however often blanks are skipped,
the next call for a token comes to the same. -/
theorem skipBlanks_takes_gap {source : String} (h : Reached source.toList lexer)
    (hopen : lexer.closed = false) :
    ∃ skipped gap behind, lexer.skipBlanks = .ok skipped
      ∧ skipped = { lexer with cursor := lexer.cursor.advanceBy gap.length }
      ∧ skipped.cursor.index = lexer.cursor.index + gap.length
      ∧ (source.toList.drop skipped.cursor.index).takeWhile (· != endMark) = behind
      ∧ (lexer.options.keepComments = false →
          Longest (Gap false) ((source.toList.drop lexer.cursor.index).takeWhile (· != endMark))
            gap behind)
      ∧ (lexer.options.keepComments = true →
          Longest (fun front _ => ∀ char ∈ front, isBlank char = true)
            ((source.toList.drop lexer.cursor.index).takeWhile (· != endMark)) gap behind)
      ∧ GapEnd lexer.options.keepComments behind
      ∧ skipped.skipBlanks = .ok skipped
      ∧ ∀ count, ∃ again, lexer.skipBlanksTimes count = .ok again
          ∧ ∀ collector, again.next collector = lexer.next collector := by
  obtain ⟨gap, behind, hlive, hgap, hstop⟩ :=
    exists_gap lexer.options.keepComments lexer.cursor.live
  have hlongest := longest_gap hgap hstop
  have hcursor := Cursor.skipBlanks_of_gap hgap hstop hlive
  have hrest : (source.toList.drop lexer.cursor.index).takeWhile (· != endMark)
      = gap ++ behind := by
    rw [← h.source_eq, h.wellFormed.takeWhile_drop_source, hlive]
  have hskip := skipBlanks_of_open hopen
  rw [hcursor] at hskip
  refine ⟨_, gap, behind, hskip, rfl, ?_, ?_, ?_, ?_, gapEnd_of_blanks_eq_nil hstop, ?_,
    exists_skipBlanksTimes hopen⟩
  · rw [Cursor.index_advanceBy, hlive, List.length_append, Nat.min_eq_left (Nat.le_add_right _ _)]
  · have hmoved := (h.wellFormed.advanceBy gap.length).takeWhile_drop_source
    rwa [Cursor.source_advanceBy, h.source_eq, Cursor.live_advanceBy, hlive, List.drop_left]
      at hmoved
  · intro hkeep
    rw [hrest]
    rwa [hkeep] at hlongest
  · intro hkeep
    rw [hrest]
    rw [hkeep] at hlongest
    exact ⟨hlongest.text_eq, gap_true_iff.1 hlongest.hasForm,
      fun other rest hsplit hother => hlongest.length_le other rest hsplit (gap_true_iff.2 hother)⟩
  · have hmoved : (Lexer.mk (lexer.cursor.advanceBy gap.length) lexer.options
        lexer.closed).closed = false := hopen
    rw [skipBlanks_of_open hmoved]
    show Except.ok _ = Except.ok _
    rw [← hcursor, Cursor.skipBlanks_skipBlanks]

/-- Behind a report: a block comment that a star opens and closes again, a blank and a line comment
are skipped, and a block comment is not that only closes behind the end mark. -/
theorem skipBlanks_takes_gap_to_open_comment :
    ∃ lexer skipped, Reached "@/*/ */ //x\n/*a\x00*/".toList lexer ∧ lexer.closed = false
      ∧ lexer.cursor.index = 1 ∧ lexer.skipBlanks = .ok skipped
      ∧ skipped.cursor.index = 12
      ∧ Longest (Gap false)
          ['/', '*', '/', ' ', '*', '/', ' ', '/', '/', 'x', '\n', '/', '*', 'a']
          ['/', '*', '/', ' ', '*', '/', ' ', '/', '/', 'x', '\n'] ['/', '*', 'a']
      ∧ GapEnd false ['/', '*', 'a'] := by
  have hstart : Reached "@/*/ */ //x\n/*a\x00*/".toList (fresh { strict := true } _) := .fresh _
  have hbehind := hstart.call .next {}
  obtain ⟨skipped, gap, behind, hskip, -, -, hrest, hlongest, -, hend, -⟩ :=
    skipBlanks_takes_gap hbehind (by decide +kernel)
  have hplace : skipped.cursor.index = 12 := by
    rw [(eq_of_skipBlanks hskip).2]
    decide +kernel
  obtain rfl : ['/', '*', 'a'] = behind := by
    rw [← hrest, hplace]
    decide +kernel
  have hlongest := hlongest (by decide +kernel)
  have hsplit := hlongest.text_eq
  obtain rfl : ['/', '*', '/', ' ', '*', '/', ' ', '/', '/', 'x', '\n'] = gap := by
    refine List.append_cancel_right (Eq.trans ?_ hsplit)
    decide +kernel
  rw [hsplit] at hlongest
  exact ⟨_, skipped, hbehind, by decide +kernel, by decide +kernel, hskip, hplace, hlongest, hend⟩

end Lexer
end SourceLexer
