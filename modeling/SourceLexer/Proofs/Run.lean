import SourceLexer.Lexer.Run
import SourceLexer.Proofs.Outline
import SourceLexer.Proofs.Position

/-!
# Runs that nothing stops

A lexer that is not strict and whose collector has no limit goes through a text to its end,
whatever it finds there.  Such a run is worked out here from the outline of the text: each reading
of the outline becomes a scan at the cursor that stands where the reading starts, and the run
yields the tokens of these scans and records their diagnostics.

## Options that change between calls

`drainWith` sets the options anew before every call.  `drain` is the case in which they stay as
they are (`drain_eq_drainWith`), so what is said of the one holds of the other.

`run` is the run of a new lexer with a new collector, and `tokenize_eq_ok_run` says that taking the
tokens of a source comes to the same.
-/

namespace SourceLexer

open Lexeme

/-! ## Scans and readings -/

namespace Scan

@[simp] theorem token_ofReading (options : Options) (start : Cursor) (reading : Reading) :
    (ofReading options start reading).token
      = tokenAt options start reading.kind reading.lexeme := by
  cases reading <;> rfl

@[simp] theorem diagnostic_ofReading (options : Options) (start : Cursor) (reading : Reading) :
    (ofReading options start reading).diagnostic
      = reading.cause?.map (diagnosticAt options start) := by
  cases reading <;> rfl

@[simp] theorem cursor_ofReading (options : Options) (start : Cursor) (reading : Reading) :
    (ofReading options start reading).cursor = start.advanceBy reading.text.length := by
  cases reading <;> rfl

/-- The token of a reading shows the text of the reading. -/
theorem text_tokenAt (options : Options) (start : Cursor) {reading : Reading}
    (h : reading.Faithful) :
    (tokenAt options start reading.kind reading.lexeme).text.toList = reading.text := by
  cases reading with
  | endOfInput => rfl
  | token kind lexeme text =>
    have hshown : lexeme.getD kind.fixedText = String.ofList text := h.2.2
    show (lexeme.getD kind.fixedText).toList = text
    rw [hshown, String.toList_ofList]
  | fault cause text =>
    have hlexeme : cause.lexeme = some (String.ofList text) := h
    simp [tokenAt, Token.text, Reading.lexeme, Reading.text, hlexeme]

/-- Of the options only the name of the source text gets into a scan. -/
theorem ofReading_filename (options : Options) (start : Cursor) (reading : Reading) :
    ofReading options start reading = ofReading { filename := options.filename } start reading := by
  cases reading <;> rfl

end Scan

/-- What a token is, apart from where it stands. -/
def Token.content (token : Token) : Token.Kind × Option String :=
  (token.kind, token.lexeme)

/-- What the token of a reading is. -/
def Lexeme.Reading.content (reading : Reading) : Token.Kind × Option String :=
  (reading.kind, reading.lexeme)

/-- The scan at the place where a reading starts. -/
def Lexeme.Found.scan (filename : String) (cursor : Cursor) (found : Found) : Scan :=
  Scan.ofReading { filename } (cursor.advanceBy found.start) found.reading

/-- The scans from a cursor to the end of the input. -/
def Cursor.scans (filename : String) (keep : Nat → Bool) (cursor : Cursor) : List Scan :=
  (outline keep cursor.live).map (Found.scan filename cursor)

namespace Lexeme.Found

variable (filename : String) (cursor : Cursor) (found : Found)

@[simp] theorem kind_scan : (found.scan filename cursor).token.kind = found.reading.kind := by
  rw [scan, Scan.token_ofReading]
  rfl

@[simp] theorem lexeme_scan :
    (found.scan filename cursor).token.lexeme = found.reading.lexeme := by
  rw [scan, Scan.token_ofReading]
  rfl

theorem content_scan : (found.scan filename cursor).token.content = found.reading.content := by
  rw [Token.content, Reading.content, kind_scan, lexeme_scan]

/-- The token of a scan shows the text that has been read. -/
theorem text_token_scan (filename : String) (cursor : Cursor) (start : Nat) (text : List Char) :
    (Found.scan filename cursor ⟨start, Reading.read text⟩).token.text.toList
      = (Reading.read text).text := by
  rw [scan, Scan.token_ofReading]
  exact Scan.text_tokenAt _ _ (Reading.faithful_read text)

/-- A scan ends behind the text of its reading. -/
theorem cursor_scan :
    (found.scan filename cursor).cursor
      = cursor.advanceBy (found.start + found.reading.text.length) := by
  rw [scan, Scan.cursor_ofReading, Cursor.advanceBy_advanceBy]

/-- What starts further on is scanned from a cursor further on. -/
theorem scan_shift (distance : Nat) :
    (found.shift distance).scan filename cursor
      = found.scan filename (cursor.advanceBy distance) := by
  rw [scan, scan, Cursor.advanceBy_advanceBy]
  rfl

end Lexeme.Found

namespace Cursor

variable {options : Options} {cursor : Cursor} {gap behind : List Char} {reading : Reading}

theorem scan_of_gap (hgap : Gap options.keepComments gap []) (hlive : cursor.live = gap) :
    cursor.scan options = Found.scan options.filename cursor ⟨gap.length, .endOfInput⟩ := by
  have hblanks := blanks_eq_self_of_gap hgap
  have hstart : (cursor.advanceBy gap.length).live = [] := by
    rw [live_advanceBy, hlive, List.drop_length]
  rw [scan, skipBlanks, hlive, hblanks, hstart, Scan.ofReading_filename]
  rfl

theorem scan_of_piece (hpiece : Piece options.keepComments gap reading behind)
    (hlive : cursor.live = gap ++ (reading.text ++ behind)) :
    cursor.scan options = Found.scan options.filename cursor ⟨gap.length, reading⟩ := by
  have hblanks := blanks_eq_of_gap hpiece.isGap hpiece.blanks_eq_nil
  have hstart : (cursor.advanceBy gap.length).live = reading.text ++ behind := by
    rw [live_advanceBy, hlive, List.drop_left]
  rw [scan, skipBlanks, hlive, hblanks, hstart, hpiece.read_eq, Scan.ofReading_filename]
  rfl

/-- Scans can be picked by the kinds of their readings. -/
theorem filter_kind_scans (filename : String) (keep : Nat → Bool) (cursor : Cursor)
    (wanted : Token.Kind → Bool) :
    (cursor.scans filename keep).filter (fun scan => wanted scan.token.kind)
      = ((outline keep cursor.live).filter fun found => wanted found.reading.kind).map
          (Found.scan filename cursor) := by
  rw [scans, List.filter_map]
  congr 1
  refine List.filter_congr ?_
  intro found _
  rw [Function.comp_apply, Found.kind_scan]

/-- A scan has no diagnostic unless its token is bad text, so others can be left out. -/
theorem filterMap_diagnostic_filter_scans (filename : String) (keep : Nat → Bool)
    (cursor : Cursor) (wanted : Token.Kind → Bool) (h : wanted .error = true) :
    ((cursor.scans filename keep).filter fun scan => wanted scan.token.kind).filterMap
        Scan.diagnostic
      = (cursor.scans filename keep).filterMap Scan.diagnostic := by
  rw [List.filterMap_filter]
  refine List.filterMap_congr ?_
  intro scan hscan
  obtain ⟨found, -, rfl⟩ := List.mem_map.1 hscan
  rw [Found.kind_scan, Found.scan, Scan.diagnostic_ofReading]
  cases found.reading with
  | endOfInput => exact ite_self _
  | token kind text => exact ite_self _
  | fault cause text => exact if_pos h

/-- What the tokens of a cursor are, the readings alone decide. -/
theorem map_content_scans (filename : String) (keep : Nat → Bool) (cursor : Cursor) :
    ((cursor.scans filename keep).map Scan.token).map Token.content
      = ((outline keep cursor.live).map Found.reading).map Reading.content := by
  rw [scans, List.map_map, List.map_map, List.map_map]
  exact List.map_congr_left fun found _ => Found.content_scan filename cursor found

/-- So it is with what is wrong. -/
theorem map_cause_scans (filename : String) (keep : Nat → Bool) (cursor : Cursor) :
    ((cursor.scans filename keep).filterMap Scan.diagnostic).map Diagnostic.cause
      = ((outline keep cursor.live).map Found.reading).filterMap Reading.cause? := by
  rw [scans, List.filterMap_map, List.filterMap_map, List.map_filterMap]
  refine List.filterMap_congr ?_
  intro found _
  rw [Function.comp_apply, Function.comp_apply, Found.scan, Scan.diagnostic_ofReading,
    Option.map_map]
  exact Option.map_id'

theorem live_advanceBy_of_piece (hlive : cursor.live = gap ++ (reading.text ++ behind)) :
    (cursor.advanceBy (gap.length + reading.text.length)).live = behind := by
  rw [live_advanceBy, hlive, ← List.append_assoc, ← List.length_append, List.drop_left]

/-- What has been passed behind a piece is longer by its gap and its lexeme. -/
theorem reverse_before_of_piece (hlive : cursor.live = gap ++ (reading.text ++ behind)) :
    (cursor.advanceBy (gap.length + reading.text.length)).before.reverse
      = cursor.before.reverse ++ (gap ++ reading.text) := by
  rw [← List.length_append]
  exact reverse_before_of_live (hlive.trans (List.append_assoc _ _ _).symm)

theorem scans_of_gap {filename : String} {keep : Nat → Bool} (hgap : Gap (keep 0) gap [])
    (hlive : cursor.live = gap) :
    cursor.scans filename keep = [Found.scan filename cursor ⟨gap.length, .endOfInput⟩] := by
  rw [scans, hlive, outline_gap hgap]
  rfl

theorem scans_of_piece {filename : String} {keep : Nat → Bool}
    (hpiece : Piece (keep 0) gap reading behind)
    (hlive : cursor.live = gap ++ (reading.text ++ behind)) :
    cursor.scans filename keep =
      Found.scan filename cursor ⟨gap.length, reading⟩
        :: (cursor.advanceBy (gap.length + reading.text.length)).scans filename (later keep) := by
  rw [scans, hlive, outline_piece hpiece, List.map_cons, List.map_map, scans,
    live_advanceBy_of_piece hlive]
  congr 1
  refine List.map_congr_left ?_
  intro found _
  exact Found.scan_shift filename cursor found _

end Cursor

/-! ## Calls that do not fail -/

namespace Collector

@[simp] theorem limit_foldl_push (diagnostics : List Diagnostic) (collector : Collector) :
    (diagnostics.foldl push collector).limit = collector.limit := by
  induction diagnostics generalizing collector with
  | nil => rfl
  | cons diagnostic diagnostics ih => rw [List.foldl_cons, ih, limit_push]

/-- Diagnostics are held behind those that were there before. -/
@[simp] theorem toList_foldl_push (diagnostics : List Diagnostic) (collector : Collector) :
    (diagnostics.foldl push collector).toList = collector.toList ++ diagnostics := by
  induction diagnostics generalizing collector with
  | nil => rw [List.foldl_nil, List.append_nil]
  | cons diagnostic diagnostics ih =>
    rw [List.foldl_cons, ih, toList_push, List.append_assoc, List.singleton_append]

/-- Without a limit no report fails. -/
theorem report_of_no_limit {collector : Collector} (h : collector.limit = none)
    (diagnostic : Diagnostic) :
    collector.report diagnostic = (.ok (), collector.push diagnostic) := by
  have hreached : (collector.push diagnostic).reached? = none := by
    rw [reached?, limit_push, h, Option.filter_none]
  rw [report, hreached]

end Collector

namespace Lexer

/-- A call that may not fail returns the token of its scan and records its diagnostic. -/
theorem settle_of_no_limit {collector : Collector} (h : collector.limit = none) (scan : Scan) :
    settle false scan collector
      = (.ok scan.token, scan.diagnostic.toList.foldl Collector.push collector) := by
  unfold settle
  split
  · next hnone =>
    rw [hnone]
    rfl
  · next diagnostic hsome =>
    rw [Collector.report_of_no_limit h, hsome]
    rfl

/-- An open lexer that is not strict moves on as one scan does and returns its token. -/
theorem next_of_no_limit {lexer : Lexer} {collector : Collector}
    (hopen : lexer.closed = false) (hstrict : lexer.options.strict = false)
    (hlimit : collector.limit = none) :
    lexer.next collector =
      ⟨.ok (lexer.cursor.scan lexer.options).token,
        { lexer with cursor := (lexer.cursor.scan lexer.options).cursor },
        (lexer.cursor.scan lexer.options).diagnostic.toList.foldl Collector.push collector⟩ := by
  rw [next_of_open hopen, hstrict, settle_of_no_limit hlimit]

/-! ## Runs to the end of the input -/

/-- Takes tokens up to the end of the input, with the options set anew before every call. -/
def drainWith (configure : Nat → Options) (lexer : Lexer) (collector : Collector) : Run :=
  let step := Lexer.next { lexer with options := configure 0 } collector
  match _ : step.outcome with
  | .error failure => ⟨[], some failure, step.lexer, step.collector⟩
  | .ok token =>
    if token.kind = .endOfInput then ⟨[token], none, step.lexer, step.collector⟩
    else (drainWith (fun call => configure (call + 1)) step.lexer step.collector).cons token
  termination_by lexer.cursor.live.length
  decreasing_by exact live_length_lt_of_next ‹_› ‹_›

theorem drainWith_of_ok {configure : Nat → Options} {lexer next : Lexer}
    {collector reported : Collector} {token : Token}
    (h : Lexer.next { lexer with options := configure 0 } collector
      = ⟨.ok token, next, reported⟩) :
    drainWith configure lexer collector =
      if token.kind = .endOfInput then ⟨[token], none, next, reported⟩
      else (drainWith (fun call => configure (call + 1)) next reported).cons token := by
  rw [drainWith]
  split
  · next failure hfailure =>
    rw [h] at hfailure
    cases hfailure
  · next found hfound =>
    rw [h] at hfound
    cases hfound
    rw [h]

/-- Options that stay as they are make no difference. -/
theorem drain_eq_drainWith (lexer : Lexer) (collector : Collector) :
    drain lexer collector = drainWith (fun _ => lexer.options) lexer collector := by
  induction hlength : lexer.cursor.live.length using Nat.strong_induction_on
    generalizing lexer collector with
  | _ length ih =>
    subst hlength
    have hoptions : (lexer.next collector).lexer.options = lexer.options := by
      cases hclosed : lexer.closed with
      | true => rw [next_of_closed hclosed]
      | false => rw [next_of_open hclosed]
    rw [drainWith]
    split
    · next failure hfailure => exact drain_of_error hfailure
    · next token htoken =>
      split
      · next hend => exact drain_of_end htoken hend
      · next hmore =>
        rw [drain_of_token htoken hmore,
          ih _ (live_length_lt_of_next htoken hmore) _ _ rfl, hoptions]

/-- The tokens of a run without the end of the input. -/
def Run.withoutEnd (run : Run) : List Token :=
  run.tokens.filter fun token => token.kind ≠ .endOfInput

/-- What a run yields if it is made of the given scans and nothing stops it. -/
structure Run.Yields (run : Run) (scans : List Scan) (collector : Collector) : Prop where
  failure : run.failure = none
  tokens : run.tokens = scans.map Scan.token
  collector : run.collector = (scans.filterMap Scan.diagnostic).foldl Collector.push collector

/-- The diagnostics of the scans are held behind those that were there before. -/
theorem Run.Yields.toList_collector {run : Run} {scans : List Scan} {collector : Collector}
    (h : run.Yields scans collector) :
    run.collector.toList = collector.toList ++ scans.filterMap Scan.diagnostic := by
  rw [h.collector, Collector.toList_foldl_push]

/-- The run that begins with one more scan. -/
theorem Run.Yields.cons {run : Run} {scan : Scan} {scans : List Scan} {collector : Collector}
    (h : run.Yields scans (scan.diagnostic.toList.foldl Collector.push collector)) :
    (run.cons scan.token).Yields (scan :: scans) collector where
  failure := h.failure
  tokens := congrArg (scan.token :: ·) h.tokens
  collector := by
    rw [Run.cons, h.collector, ← List.foldl_append]
    cases hdiagnostic : scan.diagnostic <;> simp [hdiagnostic]

/-- Options that let no call fail and leave the source text its name. -/
structure Lenient (filename : String) (configure : Nat → Options) : Prop where
  not_strict : ∀ call, (configure call).strict = false
  filename_eq : ∀ call, (configure call).filename = filename

theorem Lenient.later {filename : String} {configure : Nat → Options}
    (h : Lenient filename configure) : Lenient filename fun call => configure (call + 1) :=
  ⟨fun call => h.not_strict (call + 1), fun call => h.filename_eq (call + 1)⟩

theorem Lenient.next_with_configured {filename : String} {configure : Nat → Options}
    (h : Lenient filename configure) {lexer : Lexer} {collector : Collector}
    (hopen : lexer.closed = false) (hlimit : collector.limit = none) :
    Lexer.next { lexer with options := configure 0 } collector =
      ⟨.ok (lexer.cursor.scan (configure 0)).token,
        { lexer with options := configure 0, cursor := (lexer.cursor.scan (configure 0)).cursor },
        (lexer.cursor.scan (configure 0)).diagnostic.toList.foldl Collector.push collector⟩ := by
  have hconfigured : (Lexer.mk lexer.cursor (configure 0) lexer.closed).closed = false := hopen
  exact next_of_no_limit hconfigured (h.not_strict 0) hlimit

/-- A run that nothing stops is made of the scans from its cursor on. -/
theorem drainWith_yields {filename : String} {configure : Nat → Options} {lexer : Lexer}
    {collector : Collector} (hopen : lexer.closed = false) (hlenient : Lenient filename configure)
    (hlimit : collector.limit = none) :
    (drainWith configure lexer collector).Yields
      (lexer.cursor.scans filename fun call => (configure call).keepComments) collector := by
  generalize hkeep : (fun call => (configure call).keepComments) = keep
  generalize hlive : lexer.cursor.live = text
  induction keep, text using outline_induction generalizing configure lexer collector with
  | gap keep gap hgap =>
    subst hkeep
    have hscan := Cursor.scan_of_gap hgap hlive
    have hnext := hlenient.next_with_configured hopen hlimit
    rw [hscan, hlenient.filename_eq] at hnext
    rw [drainWith_of_ok hnext, Cursor.scans_of_gap hgap hlive]
    exact ⟨rfl, rfl, rfl⟩
  | piece keep gap reading behind hpiece ih =>
    subst hkeep
    have hscan := Cursor.scan_of_piece hpiece hlive
    have hnext := hlenient.next_with_configured hopen hlimit
    rw [hscan, hlenient.filename_eq] at hnext
    have hmore : (Found.scan filename lexer.cursor ⟨gap.length, reading⟩).token.kind
        ≠ .endOfInput := by
      rw [Found.kind_scan]
      exact hpiece.kind_ne_endOfInput
    rw [drainWith_of_ok hnext, Cursor.scans_of_piece hpiece hlive, if_neg hmore,
      Found.cursor_scan]
    refine Run.Yields.cons (ih hopen hlenient.later ?_ rfl ?_)
    · rw [Collector.limit_foldl_push, hlimit]
    · exact Cursor.live_advanceBy_of_piece hlive

/-- So it is with options that stay as they are. -/
theorem drain_yields {lexer : Lexer} {collector : Collector} (hopen : lexer.closed = false)
    (hstrict : lexer.options.strict = false) (hlimit : collector.limit = none) :
    (drain lexer collector).Yields
      (lexer.cursor.scans lexer.options.filename (always lexer.options.keepComments))
      collector := by
  rw [drain_eq_drainWith]
  exact drainWith_yields hopen ⟨fun _ => hstrict, fun _ => rfl⟩ hlimit

/-! ## New lexers -/

/-- The lexer at the start of a text. -/
def fresh (options : Options) (text : List Char) : Lexer :=
  { cursor := Cursor.ofText text, options }

/-- The run of a new lexer that nothing stops. -/
def run (filename : String) (keepComments : Bool) (text : List Char) : Run :=
  drain (fresh { filename, keepComments } text) {}

/-- Taking the tokens of a source with a collector that is given is draining a new lexer. -/
theorem tokenize_eq_ok_drain (source : String) (options : Options) (collector : Collector) :
    tokenize (.text source) options (some collector) =
      .ok { drain (fresh options source.toList) collector with
        lexer := (drain (fresh options source.toList) collector).lexer.leave } := rfl

/-- Without one it is a run that nothing stops, and it cannot fail. -/
theorem tokenize_eq_ok_run (filename : String) (keepComments : Bool) (source : String) :
    tokenize (.text source) { filename, keepComments } none =
      .ok { run filename keepComments source.toList with
        lexer := (run filename keepComments source.toList).lexer.leave } := rfl

/-- So whatever comes of it has the tokens and the collector of that run. -/
theorem eq_run_of_tokenize {filename source : String} {keepComments : Bool} {taken : Run}
    (h : tokenize (.text source) { filename, keepComments } none = .ok taken) :
    taken.tokens = (run filename keepComments source.toList).tokens
      ∧ taken.collector = (run filename keepComments source.toList).collector := by
  rw [tokenize_eq_ok_run] at h
  cases h
  exact ⟨rfl, rfl⟩

theorem run_yields (filename : String) (keepComments : Bool) (text : List Char) :
    (run filename keepComments text).Yields
      ((Cursor.ofText text).scans filename (always keepComments)) {} :=
  drain_yields rfl rfl rfl

/-- A new collector holds the diagnostics of the scans. -/
theorem toList_collector_run (filename : String) (keepComments : Bool) (text : List Char) :
    (run filename keepComments text).collector.toList
      = ((Cursor.ofText text).scans filename (always keepComments)).filterMap Scan.diagnostic :=
  (run_yields filename keepComments text).toList_collector

end Lexer
end SourceLexer
