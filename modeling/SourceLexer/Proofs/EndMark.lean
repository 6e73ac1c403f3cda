import SourceLexer.Proofs.Calls
import SourceLexer.Proofs.Reach
import Mathlib.Data.List.Forall2

/-!
# An end mark ends the input

What stands behind the first end mark of a source is not read.  Calls on a lexer over such a source
come to what they come to where the source ends at that mark: the same tokens and failures, the same
diagnostics, the same places.  A single thing can tell the two apart.  A diagnostic shows its line
as it stands in the source, so there the line may go on behind the end mark.

## Two rows of calls side by side

`Cursor.cut` is the cursor in the source without the end mark and what follows it.  Moving on
commutes with cutting (`Cursor.advanceBy_cut`), and so does a scan (`Cursor.scan_cut`), because a
reading looks at nothing but the text that is left to read.  What is then done about a diagnostic
depends on how many are held and not on what they show (`Lexer.settle_front`).  Put together this is
one call, and a row of calls follows by induction.
-/

namespace SourceLexer

open Lexeme

/-! ## What may differ -/

/-- The same diagnostic, but that the line it shows may stop earlier. -/
structure Diagnostic.IsFrontOf (shorter longer : Diagnostic) : Prop where
  cause_eq : shorter.cause = longer.cause
  location_eq : shorter.location = longer.location
  sourceLine : ∃ front line, shorter.sourceLine = some front ∧ longer.sourceLine = some line
    ∧ front.toList <+: line.toList

/-- Diagnostics that are held, one by one the same but for the lines they show. -/
structure Collector.IsFrontOf (shorter longer : Collector) : Prop where
  limit_eq : shorter.limit = longer.limit
  toList : List.Forall₂ Diagnostic.IsFrontOf shorter.toList longer.toList

/-- The same outcome of a call for a token, but for the line that a diagnostic shows. -/
inductive Lexer.OutcomeIsFrontOf : (shorter longer : Except Failure Token) → Prop where
  | token (token : Token) : OutcomeIsFrontOf (.ok token) (.ok token)
  | lexical {shorter longer : Diagnostic} : shorter.IsFrontOf longer →
      OutcomeIsFrontOf (.error (.lexical shorter)) (.error (.lexical longer))
  | limitReached (limit : Nat) :
      OutcomeIsFrontOf (.error (.limitReached limit)) (.error (.limitReached limit))

/-! ## Cursors without what lies beyond -/

namespace Cursor

/-- The cursor in the source that ends where the input ends. -/
def cut (cursor : Cursor) : Cursor :=
  { cursor with beyond := [] }

@[simp] theorem live_cut (cursor : Cursor) : cursor.cut.live = cursor.live := rfl

/-- A text without an end mark is what is left of it if one is put behind it. -/
theorem cut_ofText_append {text : List Char} (h : endMark ∉ text) (more : List Char) :
    (ofText (text ++ endMark :: more)).cut = ofText text := by
  have hlive : (ofText (text ++ endMark :: more)).live = (ofText text).live := by
    rw [live_ofText_of_notMem h]
    refine takeWhile_append_of_stop (forall_bne_of_notMem h) ?_
    rintro char ⟨⟩
    rfl
  have hbeyond : (ofText text).beyond = [] := beyond_ofText_of_notMem h
  show Cursor.mk [] (ofText (text ++ endMark :: more)).live [] 1 1
    = Cursor.mk [] (ofText text).live (ofText text).beyond 1 1
  rw [hlive, hbeyond]

theorem advance_cut (cursor : Cursor) : cursor.cut.advance = cursor.advance.cut := by
  obtain ⟨before, live, beyond, line, column⟩ := cursor
  cases live <;> rfl

/-- What lies beyond is not reached by moving on. -/
theorem advanceBy_cut (count : Nat) (cursor : Cursor) :
    cursor.cut.advanceBy count = (cursor.advanceBy count).cut := by
  induction count generalizing cursor with
  | zero => rfl
  | succ count ih => rw [advanceBy, advanceBy, advance_cut, ih]

/-- The line that is shown may go on beyond. -/
theorem lineText_cut_isPrefix (cursor : Cursor) : cursor.cut.lineText <+: cursor.lineText := by
  show (cursor.before.takeWhile _).reverse ++ (cursor.live ++ []).takeWhile _
    <+: (cursor.before.takeWhile _).reverse ++ (cursor.live ++ cursor.beyond).takeWhile _
  rw [List.append_nil, List.prefix_append_right_inj, List.takeWhile_append]
  split
  · exact (List.takeWhile_prefix _).trans (List.prefix_append _ _)
  · exact List.prefix_rfl

end Cursor

/-- A diagnostic shows less of its line where the source has been cut. -/
theorem Scan.diagnosticAt_cut (options : Options) (cursor : Cursor) (cause : Diagnostic.Cause) :
    (diagnosticAt options cursor.cut cause).IsFrontOf (diagnosticAt options cursor cause) where
  cause_eq := rfl
  location_eq := rfl
  sourceLine := by
    refine ⟨_, _, rfl, rfl, ?_⟩
    simpa using cursor.lineText_cut_isPrefix

/-- A scan without what lies beyond, beside a scan with it. -/
structure Scan.IsFrontOf (shorter longer : Scan) : Prop where
  token_eq : shorter.token = longer.token
  cursor_eq : shorter.cursor = longer.cursor.cut
  diagnostic : Option.Rel Diagnostic.IsFrontOf shorter.diagnostic longer.diagnostic

/-- A scan reads nothing of what lies beyond. -/
theorem Cursor.scan_cut (options : Options) (cursor : Cursor) :
    (cursor.cut.scan options).IsFrontOf (cursor.scan options) := by
  have hskip : cursor.cut.skipBlanks options.keepComments
      = (cursor.skipBlanks options.keepComments).cut := advanceBy_cut _ cursor
  show (Scan.ofReading options (cursor.cut.skipBlanks options.keepComments)
    (Reading.read (cursor.cut.skipBlanks options.keepComments).live)).IsFrontOf _
  rw [hskip, live_cut, Cursor.scan]
  generalize cursor.skipBlanks options.keepComments = start
  generalize Reading.read start.live = reading
  refine ⟨?_, ?_, ?_⟩
  · rw [Scan.token_ofReading, Scan.token_ofReading]
    rfl
  · rw [Scan.cursor_ofReading, Scan.cursor_ofReading, advanceBy_cut]
  · rw [Scan.diagnostic_ofReading, Scan.diagnostic_ofReading]
    cases reading.cause? with
    | none => exact .none
    | some cause => exact .some (Scan.diagnosticAt_cut options start cause)

/-! ## Collectors -/

namespace Collector.IsFrontOf

variable {shorter longer : Collector} {diagnostic diagnostic' : Diagnostic}

theorem size_eq (h : shorter.IsFrontOf longer) : shorter.size = longer.size := by
  rw [← length_toList, ← length_toList]
  exact h.toList.length_eq

theorem push (h : shorter.IsFrontOf longer) (hdiagnostic : diagnostic.IsFrontOf diagnostic') :
    (shorter.push diagnostic).IsFrontOf (longer.push diagnostic') where
  limit_eq := h.limit_eq
  toList := by
    rw [toList_push, toList_push]
    exact List.rel_append h.toList (.cons hdiagnostic .nil)

/-- Whether a report fails depends on the number of diagnostics alone. -/
theorem reached?_push (h : shorter.IsFrontOf longer)
    (hdiagnostic : diagnostic.IsFrontOf diagnostic') :
    (shorter.push diagnostic).reached? = (longer.push diagnostic').reached? := by
  have hpushed := h.push hdiagnostic
  rw [reached?, reached?, hpushed.limit_eq, hpushed.size_eq]

end Collector.IsFrontOf

/-! ## Calls -/

namespace Lexer

/-- What becomes of the two scans is the same, but for the lines that are shown. -/
theorem settle_front {scan scan' : Scan} {held held' : Collector}
    (hscan : scan.IsFrontOf scan') (hheld : held.IsFrontOf held') (strict : Bool) :
    OutcomeIsFrontOf (settle strict scan held).1 (settle strict scan' held').1
      ∧ (settle strict scan held).2.IsFrontOf (settle strict scan' held').2 := by
  have hrel := hscan.diagnostic
  cases hshort : scan.diagnostic with
  | none =>
    cases hlong : scan'.diagnostic with
    | some found => rw [hshort, hlong] at hrel; cases hrel
    | none =>
      rw [settle_of_none hshort, settle_of_none hlong, hscan.token_eq]
      exact ⟨.token _, hheld⟩
  | some diagnostic =>
    cases hlong : scan'.diagnostic with
    | none => rw [hshort, hlong] at hrel; cases hrel
    | some diagnostic' =>
      rw [hshort, hlong] at hrel
      obtain ⟨hdiagnostic⟩ := hrel
      cases strict with
      | true =>
        rw [settle_strict_of_some hshort, settle_strict_of_some hlong]
        exact ⟨.lexical hdiagnostic, hheld⟩
      | false =>
        have hreached := hheld.reached?_push hdiagnostic
        rw [settle_lenient_of_some hshort, settle_lenient_of_some hlong, Collector.snd_report,
          Collector.snd_report, Collector.report, Collector.report, hreached, hscan.token_eq]
        refine ⟨?_, hheld.push hdiagnostic⟩
        cases (held'.push diagnostic').reached? with
        | none => exact .token _
        | some limit => exact .limitReached limit

/-- Two lexers that stand alike, one of them in a source that has been cut, and that report to
collectors that hold alike. -/
structure IsFrontOf (shorter longer : Lexer × Collector) : Prop where
  options_eq : shorter.1.options = longer.1.options
  shorter_open : shorter.1.closed = false
  longer_open : longer.1.closed = false
  cursor_eq : shorter.1.cursor = longer.1.cursor.cut
  collector : shorter.2.IsFrontOf longer.2

variable {lexer lexer' : Lexer} {collector collector' : Collector}

/-- One call: it comes to the same and leaves the two as they were to each other. -/
theorem next_front (h : IsFrontOf (lexer, collector) (lexer', collector')) :
    OutcomeIsFrontOf (lexer.next collector).outcome (lexer'.next collector').outcome
      ∧ IsFrontOf ((lexer.next collector).lexer, (lexer.next collector).collector)
          ((lexer'.next collector').lexer, (lexer'.next collector').collector) := by
  have hoptions : lexer.options = lexer'.options := h.options_eq
  have hcursor : lexer.cursor = lexer'.cursor.cut := h.cursor_eq
  have hscan := Cursor.scan_cut lexer'.options lexer'.cursor
  obtain ⟨houtcome, hcollector⟩ := settle_front hscan h.collector lexer'.options.strict
  rw [next_of_open h.shorter_open, next_of_open h.longer_open, hoptions, hcursor]
  exact ⟨houtcome, rfl, h.shorter_open, h.longer_open, hscan.cursor_eq, hcollector⟩

/-- A row of calls: each of them finds the two as they were to each other. -/
theorem stateBefore_front {configure : Nat → Options}
    (h : IsFrontOf (lexer, collector) (lexer', collector')) (call : Nat) :
    IsFrontOf (stateBefore configure lexer collector call)
      (stateBefore configure lexer' collector' call) := by
  induction call with
  | zero => exact ⟨rfl, h.shorter_open, h.longer_open, h.cursor_eq, h.collector⟩
  | succ call ih =>
    obtain ⟨-, hnext⟩ := next_front ih
    exact ⟨rfl, hnext.shorter_open, hnext.longer_open, hnext.cursor_eq, hnext.collector⟩

/-- **An end mark ends the input.**  A source without an end mark may be followed by one and by
anything else: call by call, whatever options and limit of the collector, the same token is
returned or the same failure told, the lexer comes to the same place, and the same diagnostics are
held, except that the lines they show may go on. -/
theorem callAt_before_endMark {source : String} (h : endMark ∉ source.toList) (more : String)
    (configure : Nat → Options) (limit : Option Nat) (call : Nat) :
    let plain := callAt configure (fresh {} source.toList) ⟨#[], limit⟩ call
    let marked := callAt configure (fresh {} (source ++ "\x00" ++ more).toList) ⟨#[], limit⟩ call
    OutcomeIsFrontOf plain.outcome marked.outcome
      ∧ plain.lexer.cursor.index = marked.lexer.cursor.index
      ∧ plain.lexer.cursor.line = marked.lexer.cursor.line
      ∧ plain.lexer.cursor.column = marked.lexer.cursor.column
      ∧ plain.lexer.cursor.current = marked.lexer.cursor.current
      ∧ List.Forall₂ Diagnostic.IsFrontOf plain.collector.toList marked.collector.toList := by
  intro plain marked
  have htext : (source ++ "\x00" ++ more).toList = source.toList ++ endMark :: more.toList := by
    simp [endMark]
  have hstart : IsFrontOf (fresh {} source.toList, ⟨#[], limit⟩)
      (fresh {} (source ++ "\x00" ++ more).toList, ⟨#[], limit⟩) := by
    refine ⟨rfl, rfl, rfl, ?_, rfl, .nil⟩
    rw [htext]
    exact (Cursor.cut_ofText_append h more.toList).symm
  obtain ⟨houtcome, hstate⟩ := next_front (@stateBefore_front _ _ _ _ configure hstart call)
  have hcursor : plain.lexer.cursor = marked.lexer.cursor.cut := hstate.cursor_eq
  refine ⟨houtcome, ?_, ?_, ?_, ?_, hstate.collector.toList⟩
  all_goals
    rw [hcursor]
    rfl

/-- A number and a comment that an end mark cuts off, and what would have made them whole. -/
theorem callAt_before_endMark_in_comment :
    endMark ∉ "1e/*a".toList
      ∧ (callAt (fun _ => { strict := true }) (fresh {} "1e/*a".toList) {} 2).outcome
          = .error (.lexical ⟨.unterminatedComment "/*a", some ⟨"<input>", 1, 3⟩, some "1e/*a"⟩)
      ∧ OutcomeIsFrontOf
          (callAt (fun _ => { strict := true }) (fresh {} "1e/*a".toList) {} 2).outcome
          (callAt (fun _ => { strict := true }) (fresh {} ("1e/*a" ++ "\x00" ++ "*/b").toList) {}
            2).outcome := by
  refine ⟨by decide, by decide +kernel, ?_⟩
  exact (callAt_before_endMark (by decide) "*/b" (fun _ => { strict := true }) none 2).1

end Lexer
end SourceLexer
