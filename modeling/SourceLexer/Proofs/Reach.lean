import SourceLexer.Proofs.Run
import SourceLexer.Session.Command

/-!
# What calls can make of a lexer

A lexer is used through calls, in any order and any number, with options that change in between
and with collectors that others use as well.  Some of the calls fail.  `Lexer.Reached` holds of
every lexer that such a history can lead to, so what is said of reached lexers is said of all that
can ever be met.

## Why so little can happen

No call does more to a cursor than to move it on (`Session.Call.Single.exists_advanceBy`), and
this is all that later proofs have to know about calls.  A reached lexer stands some characters
into its source, wherever the calls have stopped: behind a token, in the middle of a literal or
inside of a comment (`Lexer.Reached.exists_advanceBy`).
-/

namespace SourceLexer

open Lexeme

/-- A call on a lexer that is not made up of other calls. -/
inductive Session.Call.Single : Session.Call → Prop where
  | next : Single next
  | advance (count : Nat) : Single (moving (·.advance count))
  | peek (offset : Int) : Single (asking fun lexer => (lexer.peek offset).map .char)
  | skipBlanks : Single (moving Lexer.skipBlanks)
  | change (change : Options.Change) :
      Single (moving fun lexer => .ok { lexer with options := lexer.options.apply change })
  | close : Single (moving Lexer.close)
  | leave : Single (moving fun lexer => .ok lexer.leave)

/-- What calls can make of a new lexer over a source.  A call may be made with any collector, and
it counts whether it fails or not. -/
inductive Lexer.Reached (source : List Char) : Lexer → Prop where
  | fresh (options : Options) : Reached source (fresh options source)
  | call {call : Session.Call} {lexer : Lexer} (hcall : call.Single) (collector : Collector) :
      Reached source lexer → Reached source (call lexer collector).lexer

/-! ## Calls move cursors on -/

/-- A scan moves the cursor over the blanks and the lexeme. -/
theorem Cursor.cursor_scan (options : Options) (cursor : Cursor) :
    (cursor.scan options).cursor =
      cursor.advanceBy ((blanks options.keepComments cursor.live).length
        + (Reading.read (cursor.skipBlanks options.keepComments).live).text.length) := by
  rw [scan, Scan.cursor_ofReading, ← advanceBy_advanceBy]
  rfl

namespace Lexer

variable {lexer moved : Lexer}

/-- Moving on succeeds only by that many characters. -/
theorem cursor_of_advance {count : Nat} (h : lexer.advance count = .ok moved) :
    moved.cursor = lexer.cursor.advanceBy count := by
  unfold advance requireOpen at h
  split_ifs at h <;> cases h <;> rfl

theorem cursor_of_skipBlanks (h : lexer.skipBlanks = .ok moved) :
    moved.cursor = lexer.cursor.skipBlanks lexer.options.keepComments := by
  unfold skipBlanks requireOpen at h
  split_ifs at h
  · cases h
  · cases h
    rfl

theorem cursor_of_close (h : lexer.close = .ok moved) : moved.cursor = lexer.cursor := by
  unfold close requireOpen at h
  split_ifs at h
  · cases h
  · cases h
    rfl

end Lexer

namespace Session.Call

/-- If a change that succeeds only moves the cursor on, then so does the call, since one that fails
leaves the lexer as it was. -/
theorem exists_advanceBy_moving {move : Lexer → Except Failure Lexer} {lexer : Lexer}
    (h : ∀ moved, move lexer = .ok moved →
      ∃ count, moved.cursor = lexer.cursor.advanceBy count) (collector : Collector) :
    ∃ count, (moving move lexer collector).lexer.cursor = lexer.cursor.advanceBy count := by
  unfold moving
  cases hmove : move lexer with
  | ok moved => exact h moved hmove
  | error failure => exact ⟨0, rfl⟩

/-- Whatever a call comes to, it has moved the cursor on by some characters, if at all. -/
theorem Single.exists_advanceBy {call : Session.Call} (hcall : call.Single) (lexer : Lexer)
    (collector : Collector) :
    ∃ count, (call lexer collector).lexer.cursor = lexer.cursor.advanceBy count := by
  cases hcall with
  | next =>
    show ∃ count, (lexer.next collector).lexer.cursor = lexer.cursor.advanceBy count
    cases hclosed : lexer.closed with
    | true =>
      rw [Lexer.next_of_closed hclosed]
      exact ⟨0, rfl⟩
    | false =>
      rw [Lexer.next_of_open hclosed]
      exact ⟨_, Cursor.cursor_scan lexer.options lexer.cursor⟩
  | advance count =>
    refine exists_advanceBy_moving ?_ collector
    intro moved hmoved
    exact ⟨count, Lexer.cursor_of_advance hmoved⟩
  | peek offset => exact ⟨0, rfl⟩
  | skipBlanks =>
    refine exists_advanceBy_moving ?_ collector
    intro moved hmoved
    exact ⟨_, Lexer.cursor_of_skipBlanks hmoved⟩
  | change change => exact ⟨0, rfl⟩
  | close =>
    refine exists_advanceBy_moving ?_ collector
    intro moved hmoved
    exact ⟨0, Lexer.cursor_of_close hmoved⟩
  | leave => exact ⟨0, rfl⟩

end Session.Call

/-! ## Where a reached lexer stands -/

namespace Lexer.Reached

variable {source : List Char} {lexer : Lexer}

/-- A reached lexer stands some characters into its source. -/
theorem exists_advanceBy (h : Reached source lexer) :
    ∃ count, lexer.cursor = (Cursor.ofText source).advanceBy count := by
  induction h with
  | fresh options => exact ⟨0, rfl⟩
  | @call call lexer hcall collector _ ih =>
    obtain ⟨passed, hpassed⟩ := ih
    obtain ⟨count, hcount⟩ := hcall.exists_advanceBy lexer collector
    refine ⟨passed + count, ?_⟩
    rw [hcount, hpassed, Cursor.advanceBy_advanceBy]

theorem wellFormed (h : Reached source lexer) : lexer.cursor.WellFormed := by
  obtain ⟨count, hcursor⟩ := h.exists_advanceBy
  rw [hcursor]
  exact (Cursor.WellFormed.ofText source).advanceBy count

theorem source_eq (h : Reached source lexer) : lexer.cursor.source = source := by
  obtain ⟨count, hcursor⟩ := h.exists_advanceBy
  rw [hcursor, Cursor.source_advanceBy, Cursor.source_ofText]

end Lexer.Reached
end SourceLexer
