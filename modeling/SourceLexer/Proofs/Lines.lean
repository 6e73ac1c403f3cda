import SourceLexer.Proofs.Run

/-!
# A text can be read line by line

Two texts with a line feed between them are read as the upper one and then the lower one.  Nothing
that the upper text leaves unfinished gets over the line feed, apart from an escape and a block
comment, and nothing of the lower text changes what has been read above it.

## Two ways to look at the same cursor

`Cursor.above` is a cursor of the upper text with the lower text put under it, and `Cursor.below`
is a cursor of the lower text with the upper one put over it.  Each commutes with moving on, as
long as an upper cursor stays above the line feed, and each keeps the line that is shown of the
source.  Where the upper cursor has passed the line feed it is a lower one
(`Cursor.advanceBy_above_ofText`).

## Outlines

`outline_append_lineFeed` is the same on outlines: what is found in the upper text, without its
end, and then what is found in the lower text, so much further on.
-/

namespace SourceLexer

open Lexeme

/-! ## Cursors of two texts -/

namespace Cursor

/-- The cursor with another text on the lines below. -/
def above (lower : List Char) (cursor : Cursor) : Cursor :=
  { cursor with
    live := cursor.live ++ '\n' :: (ofText lower).live
    beyond := (ofText lower).beyond }

/-- The cursor with another text on the lines above. -/
def below (upper : List Char) (cursor : Cursor) : Cursor :=
  { cursor with
    before := cursor.before ++ '\n' :: upper.reverse
    line := cursor.line + lineAfter upper }

/-- Up to its first end mark a text goes on below a text that has none. -/
theorem ofText_append_lineFeed {upper : List Char} (h : endMark ∉ upper) (lower : List Char) :
    ofText (upper ++ '\n' :: lower) = (ofText upper).above lower := by
  have hupper : endMark ∉ upper ++ ['\n'] := by
    rw [List.mem_append, not_or]
    exact ⟨h, by decide⟩
  have hall := forall_bne_of_notMem hupper
  have hlive := live_ofText_of_notMem h
  rw [above, hlive, ofText, List.append_cons,
    List.takeWhile_append_of_pos hall, List.dropWhile_append_of_pos hall, List.append_assoc]
  rfl

/-! ## Above the line feed -/

theorem advance_above {cursor : Cursor} (h : cursor.live ≠ []) (lower : List Char) :
    (cursor.above lower).advance = cursor.advance.above lower := by
  obtain ⟨char, live, hlive⟩ := List.exists_cons_of_ne_nil h
  unfold advance above
  rw [hlive]
  rfl

theorem advanceBy_above {cursor : Cursor} {count : Nat} (h : count ≤ cursor.live.length)
    (lower : List Char) :
    (cursor.above lower).advanceBy count = (cursor.advanceBy count).above lower := by
  induction count generalizing cursor with
  | zero => rfl
  | succ count ih =>
    have hne : cursor.live ≠ [] := by
      intro hnil
      rw [hnil, List.length_nil] at h
      omega
    have hle : count ≤ cursor.advance.live.length := by
      rw [live_advance, List.length_drop]
      omega
    rw [advanceBy, advanceBy, advance_above hne, ih hle]

/-- What is on the lines below is not on the line that is shown. -/
theorem lineText_above {cursor : Cursor} (h : cursor.beyond = []) (lower : List Char) :
    (cursor.above lower).lineText = cursor.lineText := by
  rw [lineText, lineText, above, h, List.append_nil, List.append_assoc, List.cons_append,
    takeWhile_append_lineFeed]

/-! ## Below the line feed -/

theorem advance_below (upper : List Char) (cursor : Cursor) :
    (cursor.below upper).advance = cursor.advance.below upper := by
  obtain ⟨before, live, beyond, line, column⟩ := cursor
  cases live with
  | nil => rfl
  | cons char live =>
    by_cases hfeed : char = '\n'
    · simp only [advance, below, if_pos hfeed, List.cons_append]
      rw [Nat.add_right_comm]
    · simp only [advance, below, if_neg hfeed, List.cons_append]

theorem advanceBy_below (count : Nat) (upper : List Char) (cursor : Cursor) :
    (cursor.below upper).advanceBy count = (cursor.advanceBy count).below upper := by
  induction count generalizing cursor with
  | zero => rfl
  | succ count ih => rw [advanceBy, advanceBy, advance_below, ih]

/-- What is on the lines above is not on the line that is shown either. -/
theorem lineText_below (upper : List Char) (cursor : Cursor) :
    (cursor.below upper).lineText = cursor.lineText := by
  rw [lineText, lineText, below, takeWhile_append_lineFeed]

/-- Over the line feed the one view turns into the other. -/
theorem advanceBy_above_ofText {upper : List Char} (h : endMark ∉ upper) (lower : List Char) :
    ((ofText upper).above lower).advanceBy (upper.length + 1) = (ofText lower).below upper := by
  have hlive := live_ofText_of_notMem h
  have hend : ((ofText upper).above lower).advanceBy upper.length
      = ((ofText upper).advanceBy upper.length).above lower :=
    advanceBy_above (by rw [hlive]) lower
  have hbefore : ((ofText upper).advanceBy upper.length).before = upper.reverse := by
    rw [before_advanceBy, hlive, List.take_length]
    exact List.append_nil _
  have hdone : ((ofText upper).advanceBy upper.length).live = [] := by
    rw [live_advanceBy, hlive, List.drop_length]
  have hline : ((ofText upper).advanceBy upper.length).line = lineAfter upper := by
    have hformed := (WellFormed.ofText upper).advanceBy upper.length
    rw [hformed.line_eq, hbefore, List.reverse_reverse]
  rw [← advanceBy_advanceBy, hend]
  generalize (ofText upper).advanceBy upper.length = cursor at hbefore hdone hline
  obtain ⟨before, live, beyond, line, column⟩ := cursor
  obtain rfl : before = upper.reverse := hbefore
  obtain rfl : live = [] := hdone
  obtain rfl : line = lineAfter upper := hline
  show Cursor.mk _ _ _ _ _ = Cursor.mk _ _ _ _ _
  rw [Nat.add_comm]
  rfl

end Cursor

/-! ## Outlines of two texts -/

namespace Lexeme

/-- Nothing starts behind the end of a text. -/
theorem start_le_of_mem_outline {keep : Nat → Bool} {text : List Char} {found : Found}
    (h : found ∈ outline keep text) : found.start ≤ text.length := by
  induction keep, text using outline_induction generalizing found with
  | gap keep gap hgap =>
    rw [outline_gap hgap, List.mem_singleton] at h
    rw [h]
  | piece keep gap reading behind hpiece ih =>
    rw [outline_piece hpiece, List.mem_cons, List.mem_map] at h
    rw [List.length_append, List.length_append]
    rcases h with rfl | ⟨further, hfurther, rfl⟩
    · show gap.length ≤ _
      omega
    · have hle := ih hfurther
      show gap.length + reading.text.length + further.start ≤ _
      omega

/-- A gap that comes to the end of a text goes on over a line feed. -/
theorem Gap.over_lineFeed {keepComments : Bool} {gap : List Char} (h : Gap keepComments gap [])
    (lower : List Char) : Gap keepComments (gap ++ ['\n']) lower := by
  have hfront : Gap keepComments gap (['\n'] ++ lower) := h.append_lineFeed lower
  exact hfront.append (.blank (by decide) .nil)

/-- What does not end in a backslash does not do so further on. -/
theorem getLast?_ne_of_append {front behind : List Char}
    (h : (front ++ behind).getLast? ≠ some '\\') : behind.getLast? ≠ some '\\' := by
  intro hbehind
  rw [List.getLast?_append, hbehind] at h
  exact h rfl

/-- A piece of a text is a piece of the text with more lines, unless a quotation or a comment that
does not close comes to the end of it. -/
theorem Piece.append_lineFeed {keepComments : Bool} {gap behind : List Char} {reading : Reading}
    (h : Piece keepComments gap reading behind)
    (hlast : (reading.text ++ behind).getLast? ≠ some '\\')
    (hopen : ∀ comment, reading.cause? ≠ some (.unterminatedComment comment))
    (lower : List Char) : Piece keepComments gap reading (behind ++ '\n' :: lower) := by
  have hne : reading.text ++ behind ≠ [] := by
    intro hnil
    exact h.text_ne_nil (List.append_eq_nil_iff.1 hnil).1
  have hcause : ∀ comment, (Reading.read (reading.text ++ behind)).cause?
      ≠ some (.unterminatedComment comment) := by
    rw [h.read_eq]
    exact hopen
  have hread := Reading.read_append_lineFeed hne hlast hcause lower
  rw [h.read_eq, List.append_assoc] at hread
  have hgap := h.isGap.append_lineFeed lower
  rw [List.append_assoc] at hgap
  exact h.relocate h.kind_ne_comment hgap hread

/-- **Outlines go line by line.**  What is found in a text, and then what is found on the lines
below it. -/
theorem outline_append_lineFeed (keepComments : Bool) {upper : List Char}
    (hlast : upper.getLast? ≠ some '\\')
    (hopen : ∀ found ∈ outline (always keepComments) upper, ∀ comment,
      found.reading.cause? ≠ some (.unterminatedComment comment))
    (lower : List Char) :
    outline (always keepComments) (upper ++ '\n' :: lower) =
      (outline (always keepComments) upper).filter (fun found => found.reading.kind ≠ .endOfInput)
        ++ (outline (always keepComments) lower).map (Found.shift (upper.length + 1)) := by
  induction upper using outline_induction_always keepComments with
  | gap gap hgap =>
    have hover : Gap (always keepComments 0) (gap ++ ['\n']) lower := hgap.over_lineFeed lower
    have hnone : ([⟨gap.length, .endOfInput⟩] : List Found).filter
        (fun found => found.reading.kind ≠ .endOfInput) = [] := rfl
    rw [outline_always_gap hgap, hnone, List.nil_append, List.append_cons, outline_gap_append hover,
      List.length_append, List.length_singleton]
  | piece gap reading behind hpiece ih =>
    rw [outline_always_piece hpiece, List.forall_mem_cons] at hopen
    obtain ⟨hreading, hbehind⟩ := hopen
    have hlast' := getLast?_ne_of_append hlast
    have hjoined := hpiece.append_lineFeed hlast' hreading lower
    have hrest := ih (getLast?_ne_of_append hlast')
      fun found hfound => hbehind (found.shift _) (List.mem_map_of_mem hfound)
    have hkind := hpiece.kind_ne_endOfInput
    rw [List.append_assoc, List.append_assoc, outline_always_piece hjoined,
      outline_always_piece hpiece, hrest, List.filter_cons_of_pos (by simpa using hkind),
      List.filter_map, List.map_append, List.map_map, List.cons_append]
    congr 2
    refine List.map_congr_left ?_
    intro found _
    rw [Function.comp_apply, Found.shift_shift, List.length_append, List.length_append,
      Nat.add_assoc, Nat.add_assoc, Nat.add_assoc]

end Lexeme

/-! ## Scans of two texts -/

/-- A place so many lines down. -/
def Location.moveDown (lines : Nat) (location : Location) : Location :=
  { location with line := location.line + lines }

/-- The same token so many lines down. -/
def Token.moveDown (lines : Nat) (token : Token) : Token :=
  { token with line := token.line + lines }

/-- The same fault so many lines down. -/
def Diagnostic.moveDown (lines : Nat) (diagnostic : Diagnostic) : Diagnostic :=
  { diagnostic with location := diagnostic.location.map (Location.moveDown lines) }

namespace Lexeme.Found

variable (filename : String) {cursor : Cursor} {found : Found}

theorem token_scan_below (upper : List Char) :
    (found.scan filename (cursor.below upper)).token
      = (found.scan filename cursor).token.moveDown (lineAfter upper) := by
  rw [scan, scan, Scan.token_ofReading, Scan.token_ofReading, Cursor.advanceBy_below]
  rfl

theorem diagnostic_scan_below (upper : List Char) :
    (found.scan filename (cursor.below upper)).diagnostic
      = (found.scan filename cursor).diagnostic.map (Diagnostic.moveDown (lineAfter upper)) := by
  rw [scan, scan, Scan.diagnostic_ofReading, Scan.diagnostic_ofReading, Cursor.advanceBy_below,
    Option.map_map]
  congr 1
  funext cause
  rw [Function.comp_apply, Scan.diagnosticAt, Scan.diagnosticAt, Cursor.lineText_below]
  rfl

theorem token_scan_above (h : found.start ≤ cursor.live.length) (lower : List Char) :
    (found.scan filename (cursor.above lower)).token = (found.scan filename cursor).token := by
  rw [scan, scan, Scan.token_ofReading, Scan.token_ofReading, Cursor.advanceBy_above h]
  rfl

theorem diagnostic_scan_above (h : found.start ≤ cursor.live.length) (hbeyond : cursor.beyond = [])
    (lower : List Char) :
    (found.scan filename (cursor.above lower)).diagnostic
      = (found.scan filename cursor).diagnostic := by
  have hline : ((cursor.advanceBy found.start).above lower).lineText
      = (cursor.advanceBy found.start).lineText :=
    Cursor.lineText_above (by rw [Cursor.beyond_advanceBy, hbeyond]) lower
  rw [scan, scan, Scan.diagnostic_ofReading, Scan.diagnostic_ofReading, Cursor.advanceBy_above h]
  congr 1
  funext cause
  rw [Scan.diagnosticAt, Scan.diagnosticAt, hline]
  rfl

end Lexeme.Found

namespace Cursor

variable {upper : List Char} {keepComments : Bool}

/-- **Scans go line by line.**  Above the line feed they are those of the upper text, but for its
end, and below it they are those of the lower text. -/
theorem scans_append_lineFeed (filename : String) (hmark : endMark ∉ upper)
    (hlast : upper.getLast? ≠ some '\\')
    (hopen : ∀ found ∈ outline (always keepComments) upper, ∀ comment,
      found.reading.cause? ≠ some (.unterminatedComment comment))
    (lower : List Char) :
    (ofText (upper ++ '\n' :: lower)).scans filename (always keepComments) =
      ((outline (always keepComments) upper).filter
          fun found => found.reading.kind ≠ .endOfInput).map
        (Found.scan filename ((ofText upper).above lower))
      ++ (outline (always keepComments) (ofText lower).live).map
        (Found.scan filename ((ofText lower).below upper)) := by
  have hlive : ((ofText upper).above lower).live = upper ++ '\n' :: (ofText lower).live := by
    rw [above, live_ofText_of_notMem hmark]
  rw [ofText_append_lineFeed hmark, scans, hlive, outline_append_lineFeed keepComments hlast hopen,
    List.map_append, List.map_map]
  congr 1
  refine List.map_congr_left ?_
  intro found _
  rw [Function.comp_apply, Found.scan_shift, advanceBy_above_ofText hmark]

end Cursor

namespace Lexer

variable {filename : String} {keepComments : Bool} {upper : List Char}

/-- What starts in the upper text starts above the line feed. -/
theorem start_le_of_mem_filter {found : Found} (hmark : endMark ∉ upper)
    (h : found ∈ (outline (always keepComments) upper).filter
      fun found => found.reading.kind ≠ .endOfInput) :
    found.start ≤ (Cursor.ofText upper).live.length := by
  rw [Cursor.live_ofText_of_notMem hmark]
  exact start_le_of_mem_outline (List.mem_of_mem_filter h)

theorem tokens_run_append_lineFeed (hmark : endMark ∉ upper) (hlast : upper.getLast? ≠ some '\\')
    (hopen : ∀ found ∈ outline (always keepComments) upper, ∀ comment,
      found.reading.cause? ≠ some (.unterminatedComment comment))
    (lower : List Char) :
    (run filename keepComments (upper ++ '\n' :: lower)).tokens =
      (run filename keepComments upper).withoutEnd
        ++ (run filename keepComments lower).tokens.map (Token.moveDown (lineAfter upper)) := by
  have hupper := Cursor.filter_kind_scans filename (always keepComments) (Cursor.ofText upper)
    fun kind => kind ≠ .endOfInput
  rw [Cursor.live_ofText_of_notMem hmark] at hupper
  rw [Run.withoutEnd, (run_yields filename keepComments _).tokens,
    (run_yields filename keepComments upper).tokens,
    (run_yields filename keepComments lower).tokens,
    Cursor.scans_append_lineFeed filename hmark hlast hopen, List.map_append, List.filter_map]
  congr 1
  · show _ = ((Cursor.scans _ _ _).filter fun scan => decide (scan.token.kind ≠ .endOfInput)).map _
    rw [hupper, List.map_map, List.map_map]
    exact List.map_congr_left fun found hfound =>
      Found.token_scan_above filename (start_le_of_mem_filter hmark hfound) lower
  · rw [Cursor.scans, List.map_map, List.map_map, List.map_map]
    exact List.map_congr_left fun found _ => Found.token_scan_below filename upper

theorem diagnostics_run_append_lineFeed (hmark : endMark ∉ upper)
    (hlast : upper.getLast? ≠ some '\\')
    (hopen : ∀ found ∈ outline (always keepComments) upper, ∀ comment,
      found.reading.cause? ≠ some (.unterminatedComment comment))
    (lower : List Char) :
    (run filename keepComments (upper ++ '\n' :: lower)).collector.toList =
      (run filename keepComments upper).collector.toList
        ++ (run filename keepComments lower).collector.toList.map
            (Diagnostic.moveDown (lineAfter upper)) := by
  have hupper := Cursor.filter_kind_scans filename (always keepComments) (Cursor.ofText upper)
    fun kind => kind ≠ .endOfInput
  have hkept := Cursor.filterMap_diagnostic_filter_scans filename (always keepComments)
    (Cursor.ofText upper) (fun kind => kind ≠ .endOfInput) rfl
  rw [Cursor.live_ofText_of_notMem hmark] at hupper
  rw [toList_collector_run, toList_collector_run, toList_collector_run,
    Cursor.scans_append_lineFeed filename hmark hlast hopen, List.filterMap_append,
    ← hkept, hupper]
  congr 1
  · rw [List.filterMap_map, List.filterMap_map]
    exact List.filterMap_congr fun found hfound =>
      Found.diagnostic_scan_above filename (start_le_of_mem_filter hmark hfound)
        (Cursor.beyond_ofText_of_notMem hmark) lower
  · rw [Cursor.scans, List.filterMap_map, List.filterMap_map, List.map_filterMap]
    exact List.filterMap_congr fun found _ => Found.diagnostic_scan_below filename upper

/-- **A text can be read line by line.**  Unless the upper text ends in a backslash or leaves a
comment open, the tokens of two texts with a line feed between them are those of the upper one and
those of the lower one so many lines down, and so are the diagnostics. -/
theorem tokenize_append_lineFeed (filename upper lower : String) (keepComments : Bool)
    {above below : Run}
    (habove : tokenize (.text upper) { filename, keepComments } none = .ok above)
    (hbelow : tokenize (.text lower) { filename, keepComments } none = .ok below)
    (hmark : endMark ∉ upper.toList) (hlast : upper.toList.getLast? ≠ some '\\')
    (hopen : ∀ diagnostic ∈ above.collector.toList, ∀ comment,
      diagnostic.cause ≠ .unterminatedComment comment) :
    ∃ both, tokenize (.text (upper ++ "\n" ++ lower)) { filename, keepComments } none = .ok both
      ∧ both.failure = none
      ∧ both.tokens = above.withoutEnd
          ++ below.tokens.map (Token.moveDown (upper.toList.count '\n' + 1))
      ∧ both.collector.toList = above.collector.toList
          ++ below.collector.toList.map (Diagnostic.moveDown (upper.toList.count '\n' + 1)) := by
  obtain ⟨habove, hcollector⟩ := eq_run_of_tokenize habove
  obtain ⟨hbelow, hcollector'⟩ := eq_run_of_tokenize hbelow
  have hfound : ∀ found ∈ outline (always keepComments) upper.toList, ∀ comment,
      found.reading.cause? ≠ some (.unterminatedComment comment) := by
    intro found hmem comment hcause
    rw [hcollector, toList_collector_run] at hopen
    refine hopen (Scan.diagnosticAt { filename }
      ((Cursor.ofText upper.toList).advanceBy found.start) (.unterminatedComment comment))
      (List.mem_filterMap.2 ⟨found.scan filename (Cursor.ofText upper.toList),
        List.mem_map_of_mem ?_, ?_⟩) comment rfl
    · rw [Cursor.live_ofText_of_notMem hmark]
      exact hmem
    · rw [Found.scan, Scan.diagnostic_ofReading, hcause]
      rfl
  have htext : (upper ++ "\n" ++ lower).toList = upper.toList ++ '\n' :: lower.toList := by
    simp
  refine ⟨_, tokenize_eq_ok_run filename keepComments _,
    (run_yields filename keepComments _).failure, ?_, ?_⟩
  · rw [htext, hbelow, Run.withoutEnd, habove]
    exact tokens_run_append_lineFeed hmark hlast hfound lower.toList
  · rw [htext, hcollector, hcollector']
    exact diagnostics_run_append_lineFeed hmark hlast hfound lower.toList

/-- A quotation that does not close above, and a character that starts no token below. -/
theorem tokenize_append_lineFeed_quotation :
    ∃ both, tokenize (.text ("'q" ++ "\n" ++ "x@")) {} none = .ok both
      ∧ both.failure = none
      ∧ both.tokens
          = [⟨.error, some "'q", 1, 1, "<input>"⟩, ⟨.identifier, some "x", 2, 1, "<input>"⟩,
              ⟨.error, some "@", 2, 2, "<input>"⟩, ⟨.endOfInput, none, 2, 3, "<input>"⟩]
      ∧ both.collector.toList
          = [⟨.unterminatedCharacter "'q", some ⟨"<input>", 1, 1⟩, some "'q"⟩,
              ⟨.invalidCharacter '@', some ⟨"<input>", 2, 2⟩, some "x@"⟩] := by
  have habove := tokenize_eq_ok_run "<input>" false "'q"
  have hbelow := tokenize_eq_ok_run "<input>" false "x@"
  have hcauses : (run "<input>" false "'q".toList).collector.toList.map Diagnostic.cause
      = [.unterminatedCharacter "'q"] := by decide +kernel
  have hopen : ∀ diagnostic ∈ (run "<input>" false "'q".toList).collector.toList, ∀ comment,
      diagnostic.cause ≠ .unterminatedComment comment := by
    intro diagnostic hdiagnostic comment
    have hcause := List.mem_map_of_mem (f := Diagnostic.cause) hdiagnostic
    rw [hcauses, List.mem_singleton] at hcause
    rw [hcause]
    rintro ⟨⟩
  obtain ⟨both, htokenize, hfailure, htokens, hdiagnostics⟩ :=
    tokenize_append_lineFeed "<input>" "'q" "x@" false habove hbelow (by decide) (by decide) hopen
  exact ⟨both, htokenize, hfailure, htokens.trans (by decide +kernel),
    hdiagnostics.trans (by decide +kernel)⟩

end Lexer
end SourceLexer
