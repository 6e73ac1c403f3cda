import SourceLexer.Proofs.Lexeme.Alphabet
import SourceLexer.Proofs.Run

/-!
# Runs over a changed alphabet

Where the characters of a source that are not ASCII are put for one another, a run finds the same
tokens at the same places and reports the same diagnostics, with the new characters in their
texts.  Nothing in a run counts bytes or asks what a character means: a character is one column,
and the line feed alone starts a line.

The cursors of the two runs stay each other's image (`Cursor.advanceBy_map`), what is found in the
one text is found in the other (`Lexeme.outline_map`), and each scan is the image of one
(`Lexeme.Found.scan_map`).  Characters keep their number throughout, so lengths and distances are
the same, and that is why the places are.
-/

namespace SourceLexer

open Lexeme

/-! ## Changed values -/

/-- The token with the characters of its text changed. -/
def Token.map (change : Char → Char) (token : Token) : Token :=
  { token with lexeme := token.lexeme.map (String.map change) }

/-- The diagnostic with the characters of the texts that it quotes changed. -/
def Diagnostic.map (change : Char → Char) (diagnostic : Diagnostic) : Diagnostic :=
  { diagnostic with
    cause := diagnostic.cause.map change
    sourceLine := diagnostic.sourceLine.map (String.map change) }

/-- The cursor in the changed source. -/
def Cursor.map (change : Char → Char) (cursor : Cursor) : Cursor :=
  { cursor with
    before := cursor.before.map change
    live := cursor.live.map change
    beyond := cursor.beyond.map change }

/-- The scan of the changed source. -/
def Scan.map (change : Char → Char) (scan : Scan) : Scan where
  token := scan.token.map change
  diagnostic := scan.diagnostic.map (Diagnostic.map change)
  cursor := scan.cursor.map change

/-- What is found in the changed text, at the same distance. -/
def Lexeme.Found.map (change : Char → Char) (found : Found) : Found :=
  { found with reading := found.reading.map change }

variable {change : Char → Char}

theorem Diagnostic.Cause.lexeme_map (cause : Cause) :
    (cause.map change).lexeme = cause.lexeme.map (String.map change) := by
  cases cause with
  | invalidCharacter char =>
    have hsingle : (change char).toString = char.toString.map change := by
      refine String.ext ?_
      rw [String.toList_map]
      simp
    rw [map, lexeme, lexeme, Option.map_some, hsingle]
  | _ => rfl

/-- The hint is about the kind of fault and quotes nothing. -/
theorem Diagnostic.hint_map (diagnostic : Diagnostic) :
    (diagnostic.map change).hint = diagnostic.hint := by
  obtain ⟨cause, location, sourceLine⟩ := diagnostic
  cases cause <;> rfl

/-! ## Cursors -/

namespace Cursor

variable (h : KeepsAscii change) (cursor : Cursor)

include h

theorem ofText_map (text : List Char) : ofText (text.map change) = (ofText text).map change := by
  have hmark : IsAscii endMark := by decide
  have hbeyond : (text.map change).dropWhile (· != endMark)
      = (text.dropWhile (· != endMark)).map change := by
    rw [List.dropWhile_map]
    congr 2
    funext char
    rw [Function.comp_apply, Bool.eq_iff_iff, bne_iff_ne, bne_iff_ne, Ne, h.eq_iff hmark]
  rw [ofText, h.takeWhile_ne_map hmark, hbeyond]
  rfl

theorem advance_map : (cursor.map change).advance = cursor.advance.map change := by
  obtain ⟨before, live, beyond, line, column⟩ := cursor
  cases live with
  | nil => rfl
  | cons char live =>
    have hfeed : change char = '\n' ↔ char = '\n' := h.eq_iff (by decide)
    simp only [advance, map, List.map_cons, hfeed]

theorem advanceBy_map (count : Nat) :
    (cursor.map change).advanceBy count = (cursor.advanceBy count).map change := by
  induction count generalizing cursor with
  | zero => rfl
  | succ count ih => rw [advanceBy, advanceBy, advance_map h, ih]

theorem lineText_map : (cursor.map change).lineText = cursor.lineText.map change := by
  have hfeed : IsAscii '\n' := by decide
  rw [lineText, lineText, map, ← List.map_append, h.takeWhile_ne_map hfeed,
    h.takeWhile_ne_map hfeed, List.map_append, List.map_reverse]

end Cursor

/-! ## Scans -/

namespace Lexeme

/-- In a changed text the same is found at the same distances. -/
theorem outline_map (h : KeepsAscii change) (keep : Nat → Bool) (text : List Char) :
    outline keep (text.map change) = (outline keep text).map (Found.map change) := by
  -- along the text as it was; the gap in front of a lexeme is equally long in both texts, so both
  -- are taken apart at the same distance
  fun_induction outline keep text with
  | case1 keep text gap hdrop =>
    have hgap : (blanks (keep 0) (text.map change)).length = gap := by
      rw [blanks_map h, List.length_map]
    rw [outline]
    split
    · rw [hgap]
      rfl
    · next char rest hfound =>
      rw [hgap, ← List.map_drop, hdrop] at hfound
      cases hfound
  | case2 keep text gap char rest hdrop reading taken ih =>
    have hgap : (blanks (keep 0) (text.map change)).length = gap := by
      rw [blanks_map h, List.length_map]
    have hread : Reading.read (change char :: rest.map change) = reading.map change :=
      Reading.read_map h (char :: rest)
    rw [outline]
    split
    · next hfound =>
      rw [hgap, ← List.map_drop, hdrop] at hfound
      cases hfound
    · next first more hfound =>
      rw [hgap, ← List.map_drop, hdrop, List.map_cons, List.cons.injEq] at hfound
      obtain ⟨rfl, rfl⟩ := hfound
      have htaken : (reading.map change).text.length = taken := by
        rw [Reading.text_map, List.length_map]
      simp only [hgap, hread, htaken, ← List.map_drop]
      rw [ih, List.map_cons, List.map_map, List.map_map]
      rfl

/-- What is found in the changed text is scanned as the image of the scan. -/
theorem Found.scan_map (h : KeepsAscii change) (filename : String) (cursor : Cursor)
    (found : Found) :
    (found.map change).scan filename (cursor.map change)
      = (found.scan filename cursor).map change := by
  obtain ⟨start, reading⟩ := found
  show Scan.ofReading { filename } ((cursor.map change).advanceBy start) (reading.map change)
    = (Scan.ofReading { filename } (cursor.advanceBy start) reading).map change
  rw [Cursor.advanceBy_map h]
  generalize cursor.advanceBy start = place
  cases reading with
  | endOfInput => rfl
  | token kind lexeme text =>
    simp only [Scan.ofReading, Scan.map, Reading.map, Scan.tokenAt, Token.map,
      Cursor.advanceBy_map h, List.length_map, Option.map_none]
    rfl
  | fault cause text =>
    simp only [Scan.ofReading, Scan.map, Reading.map, Scan.tokenAt, Token.map, Scan.diagnosticAt,
      Diagnostic.map, Diagnostic.Cause.lexeme_map, Cursor.advanceBy_map h, Cursor.lineText_map h,
      List.length_map, Text.ofList_map, Option.map_some]
    rfl

end Lexeme

namespace Cursor

variable {cursor : Cursor}

theorem scans_map (h : KeepsAscii change) (filename : String) (keep : Nat → Bool)
    (cursor : Cursor) :
    (cursor.map change).scans filename keep
      = (cursor.scans filename keep).map (Scan.map change) := by
  rw [scans, scans, map, outline_map h, List.map_map, List.map_map]
  exact List.map_congr_left fun found _ => found.scan_map h filename cursor

/-- The token of a scan is ASCII text, or of a kind that says so. -/
theorem admitsAny_or_isAscii_of_mem_scans {filename : String} {keep : Nat → Bool} {scan : Scan}
    (h : scan ∈ cursor.scans filename keep) :
    scan.token.kind.admitsAny = true ∨ ∀ char ∈ scan.token.text.toList, IsAscii char := by
  obtain ⟨⟨start, reading⟩, hfound, rfl⟩ := List.mem_map.1 h
  obtain ⟨rest, hread⟩ := exists_read_of_mem_outline hfound
  obtain rfl : reading = Reading.read rest := hread
  rw [Found.kind_scan, Found.text_token_scan]
  exact Reading.admitsAny_or_isAscii rest

/-- Where a lexeme could start, a character that is not ASCII is an error of its own. -/
theorem scan_of_not_isAscii {char : Char} {rest : List Char} (hlive : cursor.live = char :: rest)
    (h : ¬ IsAscii char) (options : Options) :
    cursor.scan options
      = ⟨Scan.tokenAt options cursor .error (some char.toString),
          some (Scan.diagnosticAt options cursor (.invalidCharacter char)), cursor.advance⟩ := by
  have hstart : cursor.skipBlanks options.keepComments = cursor := by
    rw [skipBlanks, hlive, blanks_of_not_isAscii h]
    rfl
  rw [scan, hstart, hlive, Reading.read_of_not_isAscii h]
  rfl

/-- A character that is not ASCII is one column, and starts no line. -/
theorem advance_of_not_isAscii {char : Char} {rest : List Char} (hlive : cursor.live = char :: rest)
    (h : ¬ IsAscii char) :
    cursor.advance.line = cursor.line ∧ cursor.advance.column = cursor.column + 1 := by
  have hfeed : char ≠ '\n' := by
    rintro rfl
    exact h (by decide)
  simp [advance, hlive, hfeed]

end Cursor

/-! ## Runs -/

namespace Lexer

/-- **Only ASCII characters can be told apart.**  If the other characters of a source are put for
one another, the same tokens are found at the same places and the same diagnostics are reported,
with the new characters in the texts that they quote.  Characters that are not ASCII stand in
strings, character literals, comments and bad text only.  Wherever a lexeme could start, such a
character is an error by itself, and wherever it stands it is one column and starts no line. -/
theorem tokenize_map (h : KeepsAscii change) (filename source : String) (keepComments : Bool) :
    ∃ plain changed, tokenize (.text source) { filename, keepComments } none = .ok plain
      ∧ tokenize (.text (source.map change)) { filename, keepComments } none = .ok changed
      ∧ plain.failure = none ∧ changed.failure = none
      ∧ changed.tokens = plain.tokens.map (Token.map change)
      ∧ changed.collector.toList = plain.collector.toList.map (Diagnostic.map change)
      ∧ changed.collector.toList.map Diagnostic.hint = plain.collector.toList.map Diagnostic.hint
      ∧ (∀ token ∈ plain.tokens,
          token.kind.admitsAny = true ∨ ∀ char ∈ token.text.toList, IsAscii char)
      ∧ ∀ (cursor : Cursor) (options : Options) (char : Char) (rest : List Char),
          cursor.live = char :: rest → ¬ IsAscii char →
          (cursor.scan options).token = Scan.tokenAt options cursor .error (some char.toString)
            ∧ (cursor.scan options).cursor = cursor.advance
            ∧ cursor.advance.line = cursor.line ∧ cursor.advance.column = cursor.column + 1 := by
  have hplain := run_yields filename keepComments source.toList
  have hchanged := run_yields filename keepComments (source.toList.map change)
  rw [Cursor.ofText_map h, Cursor.scans_map h] at hchanged
  have hreported : (run filename keepComments (source.toList.map change)).collector.toList
      = (run filename keepComments source.toList).collector.toList.map (Diagnostic.map change) := by
    rw [hchanged.toList_collector, hplain.toList_collector, List.filterMap_map, List.map_append,
      List.map_filterMap]
    rfl
  refine ⟨_, _, tokenize_eq_ok_run filename keepComments source,
    tokenize_eq_ok_run filename keepComments (source.map change), hplain.failure, ?_⟩
  rw [String.toList_map]
  refine ⟨hchanged.failure, ?_, hreported, ?_, ?_, ?_⟩
  · show (run filename keepComments (source.toList.map change)).tokens = _
    rw [hchanged.tokens, hplain.tokens, List.map_map, List.map_map]
    rfl
  · show (run filename keepComments (source.toList.map change)).collector.toList.map _ = _
    rw [hreported, List.map_map]
    exact List.map_congr_left fun diagnostic _ => diagnostic.hint_map
  · intro token htoken
    rw [hplain.tokens] at htoken
    obtain ⟨scan, hscan, rfl⟩ := List.mem_map.1 htoken
    exact Cursor.admitsAny_or_isAscii_of_mem_scans hscan
  · intro cursor options char rest hlive hchar
    rw [Cursor.scan_of_not_isAscii hlive hchar]
    exact ⟨rfl, rfl, Cursor.advance_of_not_isAscii hlive hchar⟩

/-- Letters and a digit of other scripts, all of which become a line separator. -/
theorem tokenize_map_lineSeparator :
    let change : Char → Char := fun char => if IsAscii char then char else '\u2028'
    KeepsAscii change
      ∧ ∃ changed, tokenize (.text ("xé = \"ü٣\n".map change)) {} none = .ok changed
        ∧ changed.tokens
            = [⟨.identifier, some "x", 1, 1, "<input>"⟩, ⟨.error, some "\u2028", 1, 2, "<input>"⟩,
                ⟨.symbol .assign, none, 1, 4, "<input>"⟩,
                ⟨.error, some "\"\u2028\u2028", 1, 6, "<input>"⟩,
                ⟨.endOfInput, none, 2, 1, "<input>"⟩]
        ∧ changed.collector.toList
            = [⟨.invalidCharacter '\u2028', some ⟨"<input>", 1, 2⟩,
                  some "x\u2028 = \"\u2028\u2028"⟩,
                ⟨.unterminatedString "\"\u2028\u2028", some ⟨"<input>", 1, 6⟩,
                  some "x\u2028 = \"\u2028\u2028"⟩] := by
  intro change
  have hkeeps : KeepsAscii change := by
    refine ⟨fun char hchar => if_pos hchar, fun char hchar => ?_⟩
    rw [show change char = '\u2028' from if_neg hchar]
    decide
  obtain ⟨plain, changed, hplain, hchanged, -, -, htokens, hheld, -⟩ :=
    tokenize_map hkeeps "<input>" "xé = \"ü٣\n" false
  rw [tokenize_eq_ok_run] at hplain
  cases hplain
  refine ⟨hkeeps, changed, hchanged, ?_, ?_⟩
  · rw [htokens]
    decide +kernel
  · rw [hheld]
    decide +kernel

end Lexer
end SourceLexer
