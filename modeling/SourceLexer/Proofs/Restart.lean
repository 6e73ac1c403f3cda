import SourceLexer.Proofs.Reach

/-!
# A run can be started anywhere

A lexer remembers nothing but where it stands.  The tokens that it still has to give are those of a
new lexer over the rest of its source, wherever the calls before have left it, and so are the
faults that it still has to report.

## Places

Only the places differ, because a new lexer counts lines and columns from one again.
`Location.behind` is the difference: on its first line the rest of a source continues the line on
which it starts, so there the columns go on as well, and on every further line only the lines do.

The two cursors are not compared step by step.  Both know their places from the text that has been
passed (`Cursor.WellFormed`), so it is enough to know how lines and columns of two texts add up.
-/

namespace SourceLexer

open Lexeme

/-! ## Places in the rest of a text -/

/-- A place of a text as a place of a larger one, in which the text starts at the given line and
column. -/
def Location.behind (line column : Nat) (place : Location) : Location :=
  if place.line = 1 then { place with line := line, column := column + place.column - 1 }
  else { place with line := line + place.line - 1 }

/-- The same token of a larger text. -/
def Token.behind (line column : Nat) (token : Token) : Token :=
  { token with
    line := (token.location.behind line column).line
    column := (token.location.behind line column).column }

/-- What a diagnostic says, apart from the line that it shows: what is wrong, which decides its
message, its lexeme and its hint, and where that is. -/
def Diagnostic.finding (diagnostic : Diagnostic) : Cause × Option Location :=
  (diagnostic.cause, diagnostic.location)

/-- The same fault of a larger text. -/
def Diagnostic.behind (line column : Nat) (diagnostic : Diagnostic) : Diagnostic :=
  { diagnostic with location := diagnostic.location.map (Location.behind line column) }

/-- Behind a text the places of another one are those in which the first one ends. -/
theorem Location.behind_lineAfter (filename : String) (front back : List Char) :
    Location.behind (lineAfter front) (columnAfter front)
        ⟨filename, lineAfter back, columnAfter back⟩
      = ⟨filename, lineAfter (front ++ back), columnAfter (front ++ back)⟩ := by
  unfold Location.behind
  by_cases hfeed : '\n' ∈ back
  · have hline : (lineAfter back : Int) ≠ 1 := by
      exact_mod_cast fun h => lineAfter_eq_one_iff.1 h hfeed
    have hcount : lineAfter back = back.count '\n' + 1 := rfl
    rw [if_neg hline, columnAfter_append, if_pos hfeed, lineAfter_append]
    congr 1
    show (lineAfter front : Int) + lineAfter back - 1 = _
    omega
  · have hline : (lineAfter back : Int) = 1 := by
      exact_mod_cast lineAfter_eq_one_iff.2 hfeed
    have hcount : back.count '\n' = 0 := List.count_eq_zero_of_not_mem hfeed
    have hcolumn : columnAfter back = back.length + 1 := columnAfter_of_notMem hfeed
    rw [if_pos hline, columnAfter_append, if_neg hfeed, lineAfter_append,
      hcount]
    congr 1
    show (columnAfter front : Int) + columnAfter back - 1 = _
    omega

namespace Cursor

variable {cursor : Cursor}

/-- The place of a cursor. -/
def place (filename : String) (cursor : Cursor) : Location :=
  ⟨filename, cursor.line, cursor.column⟩

/-- A new cursor over the rest of the source has the same text left to read. -/
theorem WellFormed.live_ofText_drop (h : cursor.WellFormed) :
    (Cursor.ofText (cursor.source.drop cursor.index)).live = cursor.live :=
  h.takeWhile_drop_source

/-- Moved on alike, the two cursors stand at the same place of the larger text. -/
theorem WellFormed.place_advanceBy (h : cursor.WellFormed) (filename : String) (count : Nat) :
    (cursor.advanceBy count).place filename =
      (((Cursor.ofText (cursor.source.drop cursor.index)).advanceBy count).place filename).behind
        cursor.line cursor.column := by
  have hnew := WellFormed.ofText (cursor.source.drop cursor.index)
  unfold place
  rw [h.line_advanceBy, h.column_advanceBy, hnew.line_advanceBy, hnew.column_advanceBy,
    h.live_ofText_drop, h.line_eq, h.column_eq]
  exact (Location.behind_lineAfter filename _ _).symm

end Cursor

/-! ## Scans of the rest of a text -/

namespace Lexeme.Found

variable {cursor : Cursor} (filename : String) (found : Found)

theorem token_scan_rest (h : cursor.WellFormed) :
    (found.scan filename cursor).token =
      (found.scan filename (Cursor.ofText (cursor.source.drop cursor.index))).token.behind
        cursor.line cursor.column := by
  have hplace := h.place_advanceBy filename found.start
  rw [scan, scan, Scan.token_ofReading, Scan.token_ofReading]
  have hline := congrArg Location.line hplace
  have hcolumn := congrArg Location.column hplace
  unfold Token.behind Scan.tokenAt
  congr 1

theorem finding_scan_rest (h : cursor.WellFormed) :
    (found.scan filename cursor).diagnostic.map Diagnostic.finding =
      (found.scan filename (Cursor.ofText (cursor.source.drop cursor.index))).diagnostic.map
        fun diagnostic => (diagnostic.behind cursor.line cursor.column).finding := by
  have hplace := h.place_advanceBy filename found.start
  rw [scan, scan, Scan.diagnostic_ofReading, Scan.diagnostic_ofReading, Option.map_map,
    Option.map_map]
  congr 1
  funext cause
  exact congrArg (fun place => (cause, some place)) hplace

end Lexeme.Found

namespace Cursor

variable {cursor : Cursor} (filename : String) (keep : Nat → Bool)

/-- The scans from a cursor on are those of the rest of the source. -/
theorem scans_eq_map_outline_rest (h : cursor.WellFormed) :
    (ofText (cursor.source.drop cursor.index)).scans filename keep =
      (outline keep cursor.live).map
        (Found.scan filename (ofText (cursor.source.drop cursor.index))) := by
  rw [scans, h.live_ofText_drop]

theorem tokens_scans_rest (h : cursor.WellFormed) :
    (cursor.scans filename keep).map Scan.token =
      (((ofText (cursor.source.drop cursor.index)).scans filename keep).map Scan.token).map
        (Token.behind cursor.line cursor.column) := by
  rw [scans_eq_map_outline_rest filename keep h, scans, List.map_map, List.map_map, List.map_map]
  exact List.map_congr_left fun found _ => found.token_scan_rest filename h

theorem findings_scans_rest (h : cursor.WellFormed) :
    ((cursor.scans filename keep).filterMap Scan.diagnostic).map Diagnostic.finding =
      ((((ofText (cursor.source.drop cursor.index)).scans filename keep).filterMap
        Scan.diagnostic).map (Diagnostic.behind cursor.line cursor.column)).map
          Diagnostic.finding := by
  rw [scans_eq_map_outline_rest filename keep h, scans, List.map_map, List.filterMap_map,
    List.filterMap_map, List.map_filterMap, List.map_filterMap]
  exact List.filterMap_congr fun found _ => found.finding_scan_rest filename h

end Cursor

/-! ## Runs over the rest of a text -/

namespace Lexer

/-- **A run can be started anywhere.**  Wherever calls have left a lexer, the tokens that it still
gives are those of the rest of its source, at their places behind the text that has been passed,
and it reports the same faults at these places. -/
theorem drain_restarts {source : String} {lexer : Lexer} {collector : Collector}
    (h : Reached source.toList lexer) (hopen : lexer.closed = false)
    (hstrict : lexer.options.strict = false) (hlimit : collector.limit = none) :
    ∃ anew,
      tokenize (.text (String.ofList (source.toList.drop lexer.cursor.index))) lexer.options
          (some {})
        = .ok anew
      ∧ anew.failure = none
      ∧ (drain lexer collector).failure = none
      ∧ (drain lexer collector).tokens
          = anew.tokens.map (Token.behind lexer.cursor.line lexer.cursor.column)
      ∧ ∃ reported, (drain lexer collector).collector.toList = collector.toList ++ reported
          ∧ reported.map Diagnostic.finding
              = (anew.collector.toList.map
                  (Diagnostic.behind lexer.cursor.line lexer.cursor.column)).map
                    Diagnostic.finding := by
  have hformed := h.wellFormed
  have hsource := h.source_eq
  have hrun := drain_yields hopen hstrict hlimit
  have hanew : (drain (fresh lexer.options (source.toList.drop lexer.cursor.index)) {}).Yields
      ((Cursor.ofText (source.toList.drop lexer.cursor.index)).scans lexer.options.filename
        (always lexer.options.keepComments)) {} :=
    drain_yields rfl hstrict rfl
  refine ⟨_, tokenize_eq_ok_drain _ _ _, ?_⟩
  rw [String.toList_ofList]
  refine ⟨hanew.failure, hrun.failure, ?_,
    (lexer.cursor.scans lexer.options.filename
      (always lexer.options.keepComments)).filterMap Scan.diagnostic, ?_, ?_⟩
  · rw [hrun.tokens, Cursor.tokens_scans_rest _ _ hformed, hsource]
    exact congrArg (List.map _) hanew.tokens.symm
  · exact hrun.toList_collector
  · show _ = ((drain (fresh lexer.options (source.toList.drop lexer.cursor.index)) {}
      ).collector.toList.map _).map _
    rw [Cursor.findings_scans_rest _ _ hformed, hsource, hanew.toList_collector]
    rfl

/-- A lexer that has failed once and then been put inside of a comment. -/
theorem drain_restarts_inside_comment :
    ∃ lexer, Reached "@/*a*/\n \"b@\n#".toList lexer
      ∧ lexer.closed = false ∧ lexer.options.strict = false
      ∧ lexer.cursor.index = 4 ∧ lexer.cursor.line = 1 ∧ lexer.cursor.column = 5
      ∧ (drain lexer {}).tokens
          = [⟨.symbol .multiply, none, 1, 5, "<input>"⟩, ⟨.symbol .divide, none, 1, 6, "<input>"⟩,
              ⟨.error, some "\"b@", 2, 2, "<input>"⟩, ⟨.error, some "#", 3, 1, "<input>"⟩,
              ⟨.endOfInput, none, 3, 2, "<input>"⟩]
      ∧ (drain lexer {}).collector.toList.map Diagnostic.finding
          = [(.unterminatedString "\"b@", some ⟨"<input>", 2, 2⟩),
              (.invalidCharacter '#', some ⟨"<input>", 3, 1⟩)] := by
  have hstart : Reached "@/*a*/\n \"b@\n#".toList (fresh { strict := true } _) := .fresh _
  have hnext := hstart.call .next {}
  have hlenient := hnext.call (.change (.strict false)) {}
  have hinside := hlenient.call (.advance 3) {}
  refine ⟨_, hinside, by decide +kernel, by decide +kernel, by decide +kernel, by decide +kernel,
    by decide +kernel, ?_⟩
  obtain ⟨anew, hanew, -, -, htokens, reported, hreported, hfindings⟩ :=
    @drain_restarts _ _ {} hinside (by decide +kernel) (by decide +kernel) rfl
  rw [tokenize_eq_ok_drain] at hanew
  cases hanew
  refine ⟨htokens.trans (by decide +kernel), ?_⟩
  rw [hreported, List.map_append, hfindings]
  decide +kernel

end Lexer
end SourceLexer
