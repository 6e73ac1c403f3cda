import SourceLexer.Proofs.Calls
import SourceLexer.Proofs.Lexeme.Fault
import SourceLexer.Proofs.Reach
import SourceLexer.Proofs.Skipping
import SourceLexer.Proofs.Text.Plain

/-!
# The caret stands under the fault

A diagnostic shows a line of the source, and under it a caret.  Three things have to agree for the
caret to stand under the first character of the bad text: the column, which the cursor has counted
up on its way, the line, which is cut out of the source around the cursor, and the blanks in front
of the caret.

## Lines of a source

`IsLine` says what a line of a source is, with what stands above and below it.  A cursor stands on
its line (`Cursor.isLine_lineText`), as many characters from its front as its column says
(`Cursor.WellFormed.column_eq_offset`).  It may stand behind the last character of the line.  But a
diagnostic is made behind the blanks, and there a character stands that is no line feed.

## Lines of a message

A message is put together from lines and taken apart at its line feeds again, which gives back the
same lines only if none of them has a line feed of its own.  The source line has none, the wording
has none since all that it shows of the source is quoted, and the name of the source is the
caller's to see to.
-/

namespace SourceLexer

open Lexeme

/-! ## Lines -/

/-- A line of a text, with what is above and below it. -/
structure IsLine (above line below : List Char) : Prop where
  lineFeed_notMem : '\n' ∉ line
  getLast?_above : ∀ char ∈ above.getLast?, char = '\n'
  head?_below : ∀ char ∈ below.head?, char = '\n'

namespace Cursor

variable (cursor : Cursor)

/-- What is above the line of the cursor. -/
def linesAbove : List Char :=
  (cursor.before.dropWhile (· != '\n')).reverse

/-- What is below the line of the cursor. -/
def linesBelow : List Char :=
  (cursor.live ++ cursor.beyond).dropWhile (· != '\n')

/-- How far from the front of its line the cursor is. -/
def offset : Nat :=
  (cursor.before.takeWhile (· != '\n')).length

theorem reverse_before_eq :
    cursor.before.reverse = cursor.linesAbove ++ (cursor.before.takeWhile (· != '\n')).reverse := by
  rw [linesAbove, ← List.reverse_append, List.takeWhile_append_dropWhile]

theorem lineText_append_below :
    cursor.lineText ++ cursor.linesBelow
      = (cursor.before.takeWhile (· != '\n')).reverse ++ (cursor.live ++ cursor.beyond) := by
  rw [lineText, linesBelow, List.append_assoc, List.takeWhile_append_dropWhile]

theorem source_eq_lines :
    cursor.source = cursor.linesAbove ++ (cursor.lineText ++ cursor.linesBelow) := by
  rw [lineText_append_below, ← List.append_assoc, ← reverse_before_eq, source, List.append_assoc]

theorem index_eq : cursor.index = cursor.linesAbove.length + cursor.offset := by
  have hlength := congrArg List.length cursor.reverse_before_eq
  rwa [List.length_reverse, List.length_append, List.length_reverse] at hlength

/-- What has not been passed goes on from the offset of the line. -/
theorem drop_offset_lines :
    (cursor.lineText ++ cursor.linesBelow).drop cursor.offset = cursor.live ++ cursor.beyond := by
  rw [lineText_append_below]
  exact List.drop_left' List.length_reverse

theorem isLine_lineText : IsLine cursor.linesAbove cursor.lineText cursor.linesBelow where
  lineFeed_notMem := by
    rw [lineText, List.mem_append, List.mem_reverse, not_or]
    exact ⟨notMem_takeWhile '\n' _, notMem_takeWhile '\n' _⟩
  getLast?_above := by
    intro char hchar
    rw [linesAbove, List.getLast?_reverse] at hchar
    exact eq_of_mem_head?_dropWhile hchar
  head?_below _ := eq_of_mem_head?_dropWhile

/-- A cursor in front of a character other than a line feed is not behind its line. -/
theorem offset_lt_length_lineText {char : Char} {rest : List Char}
    (hlive : cursor.live = char :: rest) (hfeed : char ≠ '\n') :
    cursor.offset < cursor.lineText.length := by
  have hmore : (cursor.live ++ cursor.beyond).takeWhile (· != '\n')
      = char :: (rest ++ cursor.beyond).takeWhile (· != '\n') := by
    rw [hlive, List.cons_append, List.takeWhile_cons_of_pos (by simpa using hfeed)]
  rw [lineText, hmore, List.length_append, List.length_reverse, List.length_cons]
  exact Nat.lt_add_of_pos_right (Nat.succ_pos _)

variable {cursor}

/-- The column counts from the front of the line. -/
theorem WellFormed.column_eq_offset (h : cursor.WellFormed) :
    cursor.column = cursor.offset + 1 := by
  rw [h.column_eq, columnAfter, List.reverse_reverse]
  rfl

/-- The line is counted by the line feeds above it. -/
theorem WellFormed.line_eq_linesAbove (h : cursor.WellFormed) :
    cursor.line = lineAfter cursor.linesAbove := by
  have hnone : ((cursor.before.takeWhile (· != '\n')).reverse).count '\n' = 0 := by
    rw [List.count_eq_zero, List.mem_reverse]
    exact notMem_takeWhile '\n' _
  rw [h.line_eq, reverse_before_eq, lineAfter_append, hnone, Nat.add_zero]

end Cursor

/-! ## Wording -/

namespace Text

/-- A text that stays on its line. -/
def OnOneLine (text : String) : Prop :=
  '\n' ∉ text.toList

instance (text : String) : Decidable (OnOneLine text) :=
  inferInstanceAs (Decidable (¬ _))

theorem OnOneLine.append {front back : String} (hfront : OnOneLine front)
    (hback : OnOneLine back) : OnOneLine (front ++ back) := by
  rw [OnOneLine, String.toList_append, List.mem_append, not_or]
  exact ⟨hfront, hback⟩

theorem onOneLine_ofList {text : List Char} : OnOneLine (String.ofList text) ↔ '\n' ∉ text := by
  rw [OnOneLine, String.toList_ofList]

theorem onOneLine_toString (n : Int) : OnOneLine (toString n) := fun h =>
  (isGraphic_of_mem_toString_int h).ne_lineFeed rfl

/-- What is quoted stays on its line, whatever it is. -/
theorem onOneLine_quote (text : String) : OnOneLine (quote text) := by
  have hmark : quoteMark text.toList ≠ '\n' := by
    unfold quoteMark
    split <;> decide
  have hchars : ∀ char, '\n' ∉ quotedChar (quoteMark text.toList) char := by
    intro char hchar
    unfold quotedChar at hchar
    split_ifs at hchar with hself _ hfeed _ _
    · rw [List.mem_cons, List.mem_singleton] at hchar
      rcases hchar with hslash | rfl
      · exact absurd hslash (by decide)
      · exact hself.elim (fun hself => hmark hself.symm) (by decide)
    · exact absurd hchar (by decide)
    · exact absurd hchar (by decide)
    · exact absurd hchar (by decide)
    · exact hfeed (List.mem_singleton.1 hchar).symm
    · exact (isGraphic_of_mem_codePointEscape hchar).ne_lineFeed rfl
  rw [quote, onOneLine_ofList, List.mem_append, List.mem_cons, List.mem_singleton,
    List.mem_flatMap]
  rintro ((hopen | ⟨char, -, hchar⟩) | hclose)
  · exact hmark hopen.symm
  · exact hchars char hchar
  · exact hmark hclose.symm

end Text

namespace Diagnostic

open Text (OnOneLine)

/-- What is wrong is said in one line. -/
theorem onOneLine_message {cause : Cause} {text behind : List Char}
    (h : Fault cause text behind) : OnOneLine cause.message := by
  cases h with
  | string _ =>
    show OnOneLine "unterminated string literal"
    decide
  | character _ =>
    show OnOneLine "unterminated character literal"
    decide
  | comment _ =>
    show OnOneLine "unterminated block comment"
    decide
  | @stray char _ _ =>
    have hcode : OnOneLine (String.ofList (Text.hexPadded 2 char.toNat)) :=
      Text.onOneLine_ofList.2 fun h => (Text.isGraphic_of_mem_hexPadded h).ne_lineFeed rfl
    have hinvalid : OnOneLine "invalid character " := by decide
    have hopen : OnOneLine " (0x" := by decide
    have hclose : OnOneLine ")" := by decide
    show OnOneLine ("invalid character " ++ Text.quote char.toString ++ " (0x"
      ++ String.ofList (Text.hexPadded 2 char.toNat) ++ ")")
    exact (((hinvalid.append (Text.onOneLine_quote _)).append hopen).append hcode).append hclose

/-- The first line of a diagnostic that has a location. -/
def headlineAt (filename message : String) (line column : Int) : String :=
  s!"{filename}:{line}:{column}: error: {message}"

theorem onOneLine_headlineAt {filename message : String} (hfilename : OnOneLine filename)
    (hmessage : OnOneLine message) (line column : Int) :
    OnOneLine (headlineAt filename message line column) := by
  have hcolon : OnOneLine ":" := by decide
  have herror : OnOneLine ": error: " := by decide
  have hline := (hfilename.append hcolon).append (Text.onOneLine_toString line)
  have hcolumn := (hline.append hcolon).append (Text.onOneLine_toString column)
  exact (hcolumn.append herror).append hmessage

/-- A hint comes with everything but a character with which nothing starts. -/
theorem hintLine_of_fault {diagnostic : Diagnostic} {text behind : List Char}
    (h : Fault diagnostic.cause text behind) :
    (∃ char, diagnostic.cause = .invalidCharacter char) ∧ diagnostic.hintLine = []
      ∨ (∀ char, diagnostic.cause ≠ .invalidCharacter char)
        ∧ ∃ hint, diagnostic.hintLine = ["hint: " ++ hint] ∧ OnOneLine hint := by
  obtain ⟨cause, location, sourceLine⟩ := diagnostic
  cases h with
  | string _ => exact .inr ⟨nofun, _, rfl, by decide⟩
  | character _ => exact .inr ⟨nofun, _, rfl, by decide⟩
  | comment _ => exact .inr ⟨nofun, _, rfl, by decide⟩
  | stray _ => exact .inl ⟨⟨_, rfl⟩, rfl⟩

/-- The lines of a diagnostic that stands on a line. -/
theorem lines_of_located {diagnostic : Diagnostic} {filename line : String} {row : Int}
    {offset : Nat} (hlocation : diagnostic.location = some ⟨filename, row, offset + 1⟩)
    (hline : diagnostic.sourceLine = some line) :
    diagnostic.lines = headlineAt filename diagnostic.message row (offset + 1)
      :: (String.ofList (List.replicate 4 ' ') ++ line)
      :: String.ofList (List.replicate (4 + offset) ' ' ++ ['^']) :: diagnostic.hintLine := by
  have hcaret : caretLine (offset + 1)
      = String.ofList (List.replicate (4 + offset) ' ' ++ ['^']) := by
    have hblanks : ((indent : Nat) + ((offset : Int) + 1) - 1).toNat = 4 + offset := by
      rw [indent]
      omega
    rw [caretLine, hblanks]
  have hpos : 0 < (offset : Int) + 1 := by omega
  rw [lines, headline, context, hlocation, hline]
  show _ :: ((_ :: if 0 < (offset : Int) + 1 then [caretLine (offset + 1)] else []) ++ _) = _
  rw [if_pos hpos, hcaret]
  rfl

/-- The message is taken apart into the lines that it is put together from. -/
theorem splitOn_render {diagnostic : Diagnostic} (h : ∀ line ∈ diagnostic.lines, OnOneLine line) :
    diagnostic.render.toList.splitOn '\n' = diagnostic.lines.map String.toList := by
  have hlines : ∀ line ∈ diagnostic.lines.map String.toList, '\n' ∉ line := by
    intro line hline
    obtain ⟨shown, hshown, rfl⟩ := List.mem_map.1 hline
    exact h shown hshown
  have hfeed : "\n".toList = ['\n'] := rfl
  rw [render, String.toList_intercalate, hfeed]
  exact List.splitOn_intercalate '\n' hlines (by simp [lines])

/-- The lines of the message about bad text on a line of a source. -/
theorem splitOn_render_of_fault {diagnostic : Diagnostic} {filename : String} {row : Int}
    {line lexeme behind : List Char} {offset : Nat}
    (hfault : Fault diagnostic.cause lexeme behind) (hfilename : OnOneLine filename)
    (hfeed : '\n' ∉ line) (hlocation : diagnostic.location = some ⟨filename, row, offset + 1⟩)
    (hline : diagnostic.sourceLine = some (String.ofList line)) :
    diagnostic.render.toList.splitOn '\n'
      = (headlineAt filename diagnostic.message row (offset + 1)).toList
        :: (List.replicate 4 ' ' ++ line)
        :: (List.replicate (4 + offset) ' ' ++ ['^'])
        :: diagnostic.hintLine.map String.toList := by
  have hlines := lines_of_located hlocation hline
  have hclean : ∀ shown ∈ diagnostic.lines, OnOneLine shown := by
    rw [hlines, List.forall_mem_cons, List.forall_mem_cons, List.forall_mem_cons]
    refine ⟨onOneLine_headlineAt hfilename (onOneLine_message hfault) _ _, ?_, ?_, ?_⟩
    · exact .append (Text.onOneLine_ofList.2 (by decide)) (Text.onOneLine_ofList.2 hfeed)
    · rw [Text.onOneLine_ofList, List.mem_append, List.mem_replicate, not_or]
      exact ⟨fun h => absurd h.2 (by decide), by decide⟩
    · rcases hintLine_of_fault hfault with ⟨-, hnone⟩ | ⟨-, hint, hsome, hclean⟩
      · rw [hnone]
        exact fun shown hshown => absurd hshown List.not_mem_nil
      · rw [hsome, List.forall_mem_singleton]
        exact .append (by decide) hclean
  rw [splitOn_render hclean, hlines, List.map_cons, List.map_cons, List.map_cons,
    String.toList_append, String.toList_ofList, String.toList_ofList, String.toList_ofList]

/-! ## What a diagnostic points at -/

/-- A diagnostic about bad text that starts on a line of a source, some characters from the front
of the line.  What is above and below the line is given as well. -/
structure PointsAt (diagnostic : Diagnostic) (filename : String) (above line below : List Char)
    (offset : Nat) (lexeme : List Char) : Prop where
  isLine : IsLine above line below
  offset_lt : offset < line.length
  lexeme_ne_nil : lexeme ≠ []
  lexeme_isPrefix : lexeme <+: (line ++ below).drop offset
  lexeme_eq : diagnostic.lexeme = some (String.ofList lexeme)
  sourceLine_eq : diagnostic.sourceLine = some (String.ofList line)
  location_eq : diagnostic.location = some ⟨filename, lineAfter above, offset + 1⟩
  /-- The lines of the message. -/
  lines_eq : diagnostic.render.toList.splitOn '\n'
    = (headlineAt filename diagnostic.message (lineAfter above) (offset + 1)).toList
      :: (List.replicate 4 ' ' ++ line)
      :: (List.replicate (4 + offset) ' ' ++ ['^'])
      :: diagnostic.hintLine.map String.toList
  /-- The caret stands under the first character of the bad text. -/
  caret : (List.replicate 4 ' ' ++ line)[4 + offset]? = lexeme.head?
  /-- The last of the lines is a hint, but not for a character with which nothing starts. -/
  hintLine_eq : (∃ char, diagnostic.cause = .invalidCharacter char) ∧ diagnostic.hintLine = []
    ∨ (∀ char, diagnostic.cause ≠ .invalidCharacter char)
      ∧ ∃ hint, diagnostic.hintLine = ["hint: " ++ hint]

/-- Indenting a line moves its characters by as much. -/
theorem getElem?_indented {line below lexeme : List Char} {offset : Nat}
    (hoffset : offset < line.length) (hne : lexeme ≠ [])
    (hfront : lexeme <+: (line ++ below).drop offset) :
    (List.replicate 4 ' ' ++ line)[4 + offset]? = lexeme.head? := by
  obtain ⟨more, hmore⟩ := hfront
  have hhead : lexeme.head? = (line)[offset]? := by
    rw [← List.head?_append_of_ne_nil lexeme hne, hmore, List.head?_drop,
      List.getElem?_append_left hoffset]
  rw [hhead, List.getElem?_append_right (Nat.le_add_right 4 offset), List.length_replicate,
    Nat.add_sub_cancel_left]

end Diagnostic

open Diagnostic

/-- A diagnostic that is made in front of bad text points at it. -/
theorem Cursor.WellFormed.pointsAt {cursor : Cursor} (hformed : cursor.WellFormed)
    {options : Options} (hfilename : '\n' ∉ options.filename.toList) {cause : Diagnostic.Cause}
    {char : Char} {rest behind : List Char} (hlive : cursor.live = char :: rest ++ behind)
    (hfeed : char ≠ '\n') (hfault : Fault cause (char :: rest) behind) :
    (Scan.diagnosticAt options cursor cause).PointsAt options.filename cursor.linesAbove
      cursor.lineText cursor.linesBelow cursor.offset (char :: rest) := by
  have hline := cursor.isLine_lineText
  have hoffset := cursor.offset_lt_length_lineText hlive hfeed
  have hfront : char :: rest <+: (cursor.lineText ++ cursor.linesBelow).drop cursor.offset := by
    rw [cursor.drop_offset_lines, hlive, List.append_assoc]
    exact List.prefix_append _ _
  have hlocation : (Scan.diagnosticAt options cursor cause).location
      = some ⟨options.filename, lineAfter cursor.linesAbove, cursor.offset + 1⟩ := by
    rw [Scan.diagnosticAt, hformed.line_eq_linesAbove, hformed.column_eq_offset]
    rfl
  refine ⟨hline, hoffset, List.cons_ne_nil _ _, hfront, hfault.lexeme_eq, rfl, hlocation,
    splitOn_render_of_fault hfault hfilename hline.lineFeed_notMem hlocation rfl,
    getElem?_indented hoffset (List.cons_ne_nil _ _) hfront, ?_⟩
  refine (hintLine_of_fault hfault).imp_right ?_
  rintro ⟨hother, hint, hhint, -⟩
  exact ⟨hother, hint, hhint⟩

namespace Lexer

variable {lexer : Lexer} {diagnostic : Diagnostic}

/-- A call finds a diagnostic if it fails with it or leaves it in the collector. -/
def Step.Finds (held : Collector) (step : Step Token) (diagnostic : Diagnostic) : Prop :=
  step.outcome = .error (.lexical diagnostic)
    ∨ step.collector.toList = held.toList ++ [diagnostic]

/-- A report fails only because of the limit. -/
theorem fst_report_ne_lexical (collector : Collector) (found : Diagnostic) :
    (collector.report found).1 ≠ .error (.lexical diagnostic) := by
  cases hreached : (collector.push found).reached? with
  | none =>
    rw [Collector.report, hreached]
    intro h
    cases h
  | some limit =>
    rw [Collector.report, hreached]
    intro h
    cases h

/-- Only an open lexer finds anything, and it finds what its scan finds. -/
theorem diagnostic_of_finds {collector : Collector}
    (h : (lexer.next collector).Finds collector diagnostic) :
    lexer.closed = false
      ∧ (lexer.cursor.scan lexer.options).diagnostic = some diagnostic := by
  have hself : collector.toList ≠ collector.toList ++ [diagnostic] := by
    intro hsame
    have hlength := congrArg List.length hsame
    rw [List.length_append, List.length_singleton] at hlength
    omega
  cases hclosed : lexer.closed with
  | true =>
    rw [next_of_closed hclosed] at h
    rcases h with houtcome | hheld
    · cases houtcome
    · exact absurd hheld hself
  | false =>
    refine ⟨rfl, ?_⟩
    rw [next_of_open hclosed] at h
    cases hfound : (lexer.cursor.scan lexer.options).diagnostic with
    | none =>
      rw [settle_of_none hfound] at h
      rcases h with houtcome | hheld
      · cases houtcome
      · exact absurd hheld hself
    | some found =>
      cases hstrict : lexer.options.strict with
      | true =>
        rw [hstrict, settle_strict_of_some hfound] at h
        rcases h with houtcome | hheld
        · cases houtcome
          rfl
        · exact absurd hheld hself
      | false =>
        rw [hstrict, settle_lenient_of_some hfound] at h
        rcases h with houtcome | hheld
        · cases hreport : (collector.report found).1 with
          | ok _ =>
            rw [hreport] at houtcome
            cases houtcome
          | error failure =>
            rw [hreport] at houtcome
            obtain rfl : failure = .lexical diagnostic := Except.error.inj houtcome
            exact absurd hreport (fst_report_ne_lexical collector found)
        · rw [Collector.snd_report, Collector.toList_push] at hheld
          exact congrArg some (List.cons.inj (List.append_cancel_left hheld)).1

/-- **The caret stands under the first character of the bad text.**  Wherever calls have left a
lexer, what its next call finds is about text behind the blanks, which the call takes up.  The
source line of the diagnostic is the line of the source on which this text starts.  The message
shows where that is, the line, the caret under the first character of the text and, but for a
character with which nothing starts, one hint. -/
theorem next_points_at {source : String} (h : Reached source.toList lexer)
    (hfilename : '\n' ∉ lexer.options.filename.toList) {collector : Collector}
    (hfinds : (lexer.next collector).Finds collector diagnostic) :
    ∃ above line below offset lexeme, source.toList = above ++ (line ++ below)
      ∧ diagnostic.PointsAt lexer.options.filename above line below offset lexeme
      ∧ lexer.cursor.index ≤ above.length + offset
      ∧ (lexer.next collector).lexer.cursor.index = above.length + offset + lexeme.length := by
  obtain ⟨hopen, hdiagnostic⟩ := diagnostic_of_finds hfinds
  set start := lexer.cursor.skipBlanks lexer.options.keepComments with hstart
  have hformed : start.WellFormed := h.wellFormed.advanceBy _
  have hsource : start.source = source.toList := by
    rw [hstart, Cursor.skipBlanks, Cursor.source_advanceBy, h.source_eq]
  have hscan : lexer.cursor.scan lexer.options
      = Scan.ofReading lexer.options start (Reading.read start.live) := rfl
  rw [hscan, Scan.diagnostic_ofReading] at hdiagnostic
  obtain ⟨cause, hcause, rfl⟩ := Option.map_eq_some_iff.1 hdiagnostic
  obtain ⟨behind, hbehind⟩ := Reading.text_read_isPrefix_self start.live
  have hfault : Fault cause (Reading.read start.live).text behind :=
    Reading.fault_of_read (by rw [hbehind]) hcause
  cases hlive : start.live with
  | nil =>
    rw [hlive] at hcause
    cases hcause
  | cons char rest =>
    obtain ⟨more, htext, -⟩ := Reading.exists_text_eq_cons char rest
    rw [hlive, htext] at hfault hbehind
    -- a line feed would have been skipped with the blanks
    have hfeed : char ≠ '\n' := by
      rintro rfl
      have hblanks := Cursor.blanks_live_skipBlanks lexer.options.keepComments lexer.cursor
      rw [← hstart, hlive, blanks_eq_nil_iff] at hblanks
      exact absurd hblanks.1 (by decide)
    refine ⟨start.linesAbove, start.lineText, start.linesBelow, start.offset, char :: more,
      ?_, ?_, ?_, ?_⟩
    · rw [← hsource, start.source_eq_lines]
    · exact hformed.pointsAt hfilename (hlive.trans hbehind.symm) hfeed hfault
    · rw [← start.index_eq, hstart, Cursor.skipBlanks, Cursor.index_advanceBy]
      exact Nat.le_add_right _ _
    · have hlength := congrArg List.length hbehind
      rw [List.length_append] at hlength
      rw [next_of_open hopen]
      show (lexer.cursor.scan lexer.options).cursor.index = _
      rw [hscan, Scan.cursor_ofReading, hlive, htext, Cursor.index_advanceBy, hlive,
        ← start.index_eq, Nat.min_eq_left (by omega)]

/-- Behind a comment that goes over a line feed, a string that does so as well. -/
theorem next_points_at_past_comment :
    ∃ diagnostic,
      ((fresh { filename := "m", strict := true } "/*\n*/ \"a\\\n".toList).next {}).Finds {}
          diagnostic
        ∧ diagnostic.render = "m:2:4: error: unterminated string literal\n    */ \"a\\\n       ^\n"
            ++ "hint: add closing '\"' to complete the string"
        ∧ ∃ above line below offset lexeme, "/*\n*/ \"a\\\n".toList = above ++ (line ++ below)
          ∧ diagnostic.PointsAt "m" above line below offset lexeme := by
  have hfinds :
      ((fresh { filename := "m", strict := true } "/*\n*/ \"a\\\n".toList).next {}).Finds {}
        ⟨.unterminatedString "\"a\\\n", some ⟨"m", 2, 4⟩, some "*/ \"a\\"⟩ :=
    .inl (by decide +kernel)
  obtain ⟨above, line, below, offset, lexeme, hsource, hpoints, -⟩ :=
    next_points_at (.fresh _) (by decide) hfinds
  exact ⟨_, hfinds, by decide +kernel, above, line, below, offset, lexeme, hsource, hpoints⟩

end Lexer
end SourceLexer
