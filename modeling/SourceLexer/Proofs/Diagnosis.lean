import SourceLexer.Proofs.Lexeme.Fault
import SourceLexer.Proofs.Tiling

/-!
# Bad text and its diagnostics

Bad text becomes a token of the kind `error`, and what is wrong with it is recorded.  The two come
about on different ways, and they belong together one to one: the diagnostics of a run that nothing
stops are those of its errors, in their order (`Scan.Coherent`, `map_label_diagnostics`).

## Where they stand

A diagnostic is about a piece of the source.  `Diagnostic.Describes` says what that piece looks
like, where it starts and what can follow it.  It is worked out from the place of a reading in a
text (`Lexeme.Found.In`), which is where the reading has been made.

No two tokens start at the same place, so the errors are found in the order in which they stand in
the source (`Cursor.pairwise_before_scans`).  A comment that does not close takes all the rest of
the text, and so nothing but the end of the input is found behind it
(`Lexeme.exists_end_of_comment`).
-/

namespace SourceLexer

open Lexeme

/-! ## Tokens and diagnostics -/

namespace Scan

/-- A scan is coherent if it has a diagnostic exactly for bad text, and one with the same text and
the same place. -/
structure Coherent (scan : Scan) : Prop where
  of_none : scan.diagnostic = none → scan.token.kind ≠ .error
  of_some : ∀ diagnostic, scan.diagnostic = some diagnostic → scan.token.kind = .error
    ∧ diagnostic.lexeme = scan.token.lexeme ∧ diagnostic.location = some scan.token.location

/-- Whatever is read makes a coherent scan. -/
theorem coherent_ofReading (options : Options) (start : Cursor) (text : List Char) :
    (ofReading options start (Reading.read text)).Coherent := by
  have hjustified := Reading.justified_read text
  cases hread : Reading.read text with
  | endOfInput =>
    refine ⟨fun _ => ?_, fun _ h => nomatch h⟩
    rintro ⟨⟩
  | token kind taken =>
    rw [hread] at hjustified
    exact ⟨fun _ => hjustified, fun _ h => nomatch h⟩
  | fault cause taken =>
    refine ⟨fun h => (nomatch h), ?_⟩
    intro diagnostic h
    obtain rfl := Option.some.inj h
    exact ⟨rfl, rfl, rfl⟩

theorem Coherent.kind_eq_error_iff {scan : Scan} (h : scan.Coherent) :
    scan.token.kind = .error ↔ ∃ diagnostic, scan.diagnostic = some diagnostic := by
  constructor
  · intro hkind
    by_contra hnone
    exact h.of_none (Option.eq_none_iff_forall_ne_some.2 fun d hd => hnone ⟨d, hd⟩) hkind
  · rintro ⟨diagnostic, hdiagnostic⟩
    exact (h.of_some diagnostic hdiagnostic).1

/-- The diagnostics of coherent scans are those of their errors. -/
theorem map_label_diagnostics {scans : List Scan} (h : ∀ scan ∈ scans, scan.Coherent) :
    (scans.filterMap diagnostic).map (fun found => (found.lexeme, found.location)) =
      ((scans.map token).filter (·.kind = .error)).map
        fun found => (found.lexeme, some found.location) := by
  induction scans with
  | nil => rfl
  | cons scan scans ih =>
    have hscan := h scan List.mem_cons_self
    have hscans := ih fun scan hmem => h scan (List.mem_cons_of_mem _ hmem)
    cases hdiagnostic : scan.diagnostic with
    | none =>
      have hkind := hscan.of_none hdiagnostic
      rw [List.filterMap_cons_none hdiagnostic, hscans, List.map_cons,
        List.filter_cons_of_neg (by simpa using hkind)]
    | some found =>
      obtain ⟨hkind, hlexeme, hlocation⟩ := hscan.of_some found hdiagnostic
      rw [List.filterMap_cons_some hdiagnostic, List.map_cons, hscans, List.map_cons,
        List.filter_cons_of_pos (by simpa using hkind), List.map_cons, hlexeme, hlocation]

end Scan

/-- A scan of a cursor is coherent. -/
theorem Cursor.coherent_scan (options : Options) (cursor : Cursor) :
    (cursor.scan options).Coherent :=
  Scan.coherent_ofReading options _ _

/-- So are the scans up to the end of the input. -/
theorem Cursor.coherent_of_mem_scans {filename : String} {keep : Nat → Bool} {cursor : Cursor}
    {scan : Scan} (h : scan ∈ cursor.scans filename keep) : scan.Coherent := by
  obtain ⟨found, hfound, rfl⟩ := List.mem_map.1 h
  obtain ⟨rest, hrest⟩ := exists_read_of_mem_outline hfound
  rw [Found.scan, hrest]
  exact Scan.coherent_ofReading _ _ rest

/-! ## Places -/

namespace Lexeme

/-- A reading at its place in a text, with what is in front of it and what is behind it. -/
structure Found.In (found : Found) (text front behind : List Char) : Prop where
  text_eq : text = front ++ (found.reading.text ++ behind)
  start_eq : found.start = front.length
  read_eq : Reading.read (found.reading.text ++ behind) = found.reading
  not_blank : ∀ char ∈ (found.reading.text ++ behind).head?, isBlank char = false

/-- Everything that is found has its place. -/
theorem exists_in_of_mem_outline {keep : Nat → Bool} {text : List Char} {found : Found}
    (h : found ∈ outline keep text) : ∃ front behind, found.In text front behind := by
  induction keep, text using outline_induction generalizing found with
  | gap keep gap hgap =>
    rw [outline_gap hgap, List.mem_singleton] at h
    subst h
    exact ⟨gap, [], (List.append_nil gap).symm, rfl, rfl, by simp [Reading.text]⟩
  | piece keep gap reading behind hpiece ih =>
    rw [outline_piece hpiece, List.mem_cons, List.mem_map] at h
    rcases h with rfl | ⟨further, hfurther, rfl⟩
    · refine ⟨gap, behind, rfl, rfl, hpiece.read_eq, ?_⟩
      have hblanks := hpiece.blanks_eq_nil
      intro char hchar
      obtain ⟨rest, hrest⟩ := List.head?_eq_some_iff.1 hchar
      rw [hrest, blanks_eq_nil_iff] at hblanks
      exact hblanks.1
    · obtain ⟨front, rest, hin⟩ := ih hfurther
      refine ⟨gap ++ (reading.text ++ front), rest, ?_, ?_, hin.read_eq, hin.not_blank⟩
      · rw [hin.text_eq, List.append_assoc, List.append_assoc]
        rfl
      · rw [Found.shift, hin.start_eq, List.length_append, List.length_append, Nat.add_assoc]

/-- Behind a comment that does not close only the end of the input is found. -/
theorem exists_end_of_comment {keep : Nat → Bool} {text : List Char} {front back : List Found}
    {found : Found} {lexeme : String} (h : outline keep text = front ++ found :: back)
    (hcause : found.reading.cause? = some (.unterminatedComment lexeme)) :
    ∃ final, back = [final] ∧ final.reading = .endOfInput := by
  induction keep, text using outline_induction generalizing front found back with
  | gap keep gap hgap =>
    rw [outline_gap hgap] at h
    obtain ⟨rfl, rfl, rfl⟩ : front = [] ∧ found = ⟨gap.length, .endOfInput⟩ ∧ back = [] := by
      cases front with
      | nil => simpa using h.symm
      | cons first front => simp at h
    exact nomatch hcause
  | piece keep gap reading behind hpiece ih =>
    rw [outline_piece hpiece] at h
    cases front with
    | nil =>
      obtain ⟨rfl, rfl⟩ := List.cons.inj h
      have hfault := Reading.fault_of_read hpiece.read_eq hcause
      obtain rfl : behind = [] := hfault.behind_eq_nil_of_comment (hfault.comment_iff.1 ⟨_, rfl⟩)
      have hnil : outline (later keep) [] = [⟨0, .endOfInput⟩] := outline_gap .nil
      rw [hnil]
      exact ⟨_, rfl, rfl⟩
    | cons first front =>
      have hrest := (List.cons.inj h).2
      obtain ⟨before, after, hsplit, hbefore, hafter⟩ := List.map_eq_append_iff.1 hrest
      obtain ⟨further, more, rfl, rfl, rfl⟩ := List.map_eq_cons_iff.1 hafter
      obtain ⟨final, rfl, hfinal⟩ := ih hsplit hcause
      exact ⟨final.shift _, rfl, hfinal⟩

end Lexeme

/-! ## The order of locations -/

/-- One location is in front of another one, line by line and column by column. -/
def Location.Before (first second : Location) : Prop :=
  first.line < second.line ∨ (first.line = second.line ∧ first.column < second.column)

/-- More text moves a token on. -/
theorem Token.StandsBehind.before {first second : Token} {front back : List Char}
    (hfirst : first.StandsBehind front) (hsecond : second.StandsBehind (front ++ back))
    (hback : back ≠ []) : first.location.Before second.location := by
  obtain ⟨hline, hcolumn⟩ := hfirst
  obtain ⟨hline', hcolumn'⟩ := hsecond
  rw [lineAfter_append] at hline'
  rw [columnAfter_append] at hcolumn'
  show first.line < second.line ∨ (first.line = second.line ∧ first.column < second.column)
  by_cases hfeed : '\n' ∈ back
  · have hpos : 0 < back.count '\n' := List.count_pos_iff.2 hfeed
    omega
  · have hzero : back.count '\n' = 0 := List.count_eq_zero.2 hfeed
    have hlength : 0 < back.length := List.length_pos_of_ne_nil hback
    rw [if_neg hfeed] at hcolumn'
    omega

namespace Cursor

/-- The token of a reading stands behind what is in front of the reading. -/
theorem standsBehind_of_in {cursor : Cursor} (hformed : cursor.WellFormed) {found : Found}
    {front behind : List Char} (hin : found.In cursor.live front behind) (filename : String) :
    (found.scan filename cursor).token.StandsBehind (cursor.before.reverse ++ front) := by
  have hscan := Found.standsBehind_scan hformed hin.text_eq filename found.reading
  rwa [← hin.start_eq] at hscan

/-- The tokens up to the end of the input are found in the order of their places. -/
theorem pairwise_before_scans (filename : String) (keep : Nat → Bool) {cursor : Cursor}
    (hformed : cursor.WellFormed) :
    ((cursor.scans filename keep).map Scan.token).Pairwise fun first second =>
      first.location.Before second.location := by
  generalize hlive : cursor.live = text
  induction keep, text using outline_induction generalizing cursor with
  | gap keep gap hgap =>
    rw [scans_of_gap hgap hlive]
    exact List.pairwise_singleton _ _
  | piece keep gap reading behind hpiece ih =>
    have hnext := live_advanceBy_of_piece hlive
    have hformed' := hformed.advanceBy (gap.length + reading.text.length)
    rw [scans_of_piece hpiece hlive, List.map_cons, List.pairwise_cons]
    refine ⟨?_, ih hformed' hnext⟩
    intro token htoken
    obtain ⟨scan, hscan, rfl⟩ := List.mem_map.1 htoken
    obtain ⟨further, hfurther, rfl⟩ := List.mem_map.1 hscan
    obtain ⟨front, rest, hin⟩ := exists_in_of_mem_outline hfurther
    have hfirst := Found.standsBehind_scan hformed hlive filename reading
    have hsecond := standsBehind_of_in hformed' hin filename
    rw [reverse_before_of_piece hlive, ← List.append_assoc, List.append_assoc] at hsecond
    refine hfirst.before hsecond ?_
    simp [hpiece.text_ne_nil]

end Cursor

/-! ## What a diagnostic describes -/

/-- A character with which no lexeme starts and that does not stand between lexemes either. -/
structure Stray (char : Char) : Prop where
  startsNothing : StartsNothing char
  not_blank : isBlank char = false
  ne_endMark : char ≠ endMark

/-- A diagnostic about a piece of a source, with what is in front of the piece and what is behind
it: what is wrong shows in the first characters of the piece. -/
structure Diagnostic.Describes (diagnostic : Diagnostic) (filename : String)
    (front text behind : List Char) : Prop where
  endMark_notMem : endMark ∉ front ++ text
  lexeme_eq : diagnostic.lexeme = some (String.ofList text)
  location_eq : diagnostic.location = some ⟨filename, lineAfter front, columnAfter front⟩
  string_iff : (∃ lexeme, diagnostic.cause = .unterminatedString lexeme) ↔ text.head? = some '"'
  character_iff : (∃ lexeme, diagnostic.cause = .unterminatedCharacter lexeme) ↔
    text.head? = some '\''
  comment_iff : (∃ lexeme, diagnostic.cause = .unterminatedComment lexeme) ↔
    ['/', '*'] <+: text
  stray : text.head? ≠ some '"' → text.head? ≠ some '\'' → ¬ ['/', '*'] <+: text →
    ∃ char, text = [char] ∧ diagnostic.cause = .invalidCharacter char ∧ Stray char
  quotation_ends : text.head? = some '"' ∨ text.head? = some '\'' →
    ∀ next ∈ behind.head?, next = '\n' ∨ next = endMark
  comment_ends : ['/', '*'] <+: text → ∀ next ∈ behind.head?, next = endMark

/-- The diagnostic of a scan is about the text that has been read. -/
theorem Lexeme.Found.In.describes {cursor : Cursor} (hformed : cursor.WellFormed) {found : Found}
    {front behind : List Char} (hin : found.In cursor.live front behind) {filename : String}
    {diagnostic : Diagnostic}
    (hdiagnostic : (found.scan filename cursor).diagnostic = some diagnostic) :
    diagnostic.Describes filename (cursor.before.reverse ++ front) found.reading.text
      (behind ++ cursor.beyond) := by
  have hstart : (cursor.advanceBy found.start).before.reverse = cursor.before.reverse ++ front := by
    rw [hin.start_eq]
    exact Cursor.reverse_before_of_live hin.text_eq
  have hplace := hformed.advanceBy found.start
  rw [Found.scan, Scan.diagnostic_ofReading] at hdiagnostic
  obtain ⟨cause, hcause, rfl⟩ := Option.map_eq_some_iff.1 hdiagnostic
  have hfault := Reading.fault_of_read hin.read_eq hcause
  have hlive : endMark ∉ front ++ (found.reading.text ++ behind) :=
    hin.text_eq ▸ hformed.endMark_notMem_live
  rw [List.mem_append, List.mem_append, not_or, not_or] at hlive
  -- where nothing is left to read the source goes on with an end mark, if it does
  have hbeyond : behind = [] → ∀ next ∈ (behind ++ cursor.beyond).head?, next = endMark := by
    rintro rfl
    exact hformed.head?_beyond
  refine ⟨?_, hfault.lexeme_eq, ?_, hfault.string_iff, hfault.character_iff, hfault.comment_iff,
    ?_, ?_, ?_⟩
  · rw [List.mem_append, List.mem_append, List.mem_reverse, not_or, not_or]
    exact ⟨⟨hformed.endMark_notMem_before, hlive.1⟩, hlive.2.1⟩
  · show some _ = some _
    rw [hplace.line_eq, hplace.column_eq, hstart]
  · intro hstring hcharacter hcomment
    obtain ⟨char, htext, hcause', hchar⟩ := hfault.exists_stray hstring hcharacter hcomment
    refine ⟨char, htext, hcause', hchar, ?_, ?_⟩
    · exact hin.not_blank char (by rw [htext]; rfl)
    · rintro rfl
      rw [htext] at hlive
      exact hlive.2.1 List.mem_cons_self
  · intro hquote next hnext
    cases behind with
    | nil => exact .inr (hbeyond rfl next hnext)
    | cons char rest => exact .inl (hfault.head?_behind_of_quotation hquote next hnext)
  · intro hcomment
    exact hbeyond (hfault.behind_eq_nil_of_comment hcomment)

/-- A diagnostic among those of a cursor comes from some place in the outline. -/
theorem Cursor.exists_outline_of_diagnostics {filename : String} {keep : Nat → Bool}
    {cursor : Cursor} {front back : List Diagnostic} {diagnostic : Diagnostic}
    (h : (cursor.scans filename keep).filterMap Scan.diagnostic = front ++ diagnostic :: back) :
    ∃ before found after, outline keep cursor.live = before ++ found :: after
      ∧ (found.scan filename cursor).diagnostic = some diagnostic
      ∧ (after.map (Found.scan filename cursor)).filterMap Scan.diagnostic = back := by
  rw [scans, List.filterMap_map] at h
  obtain ⟨first, second, hsplit, -, hsecond⟩ := List.filterMap_eq_append_iff.1 h
  obtain ⟨silent, found, after, rfl, -, hfound, hafter⟩ := List.filterMap_eq_cons_iff.1 hsecond
  refine ⟨first ++ silent, found, after, ?_, hfound, ?_⟩
  · rw [hsplit, List.append_assoc]
  · rw [List.filterMap_map]
    exact hafter

/-! ## The diagnostics of a run -/

/-- What the diagnostics of a run over a source are. -/
structure Lexer.Run.Diagnosed (run : Run) (filename : String) (source : List Char) : Prop where
  /-- They are those of the errors, in their order. -/
  errors : run.collector.toList.map (fun found => (found.lexeme, found.location)) =
    (run.tokens.filter (·.kind = .error)).map fun token => (token.lexeme, some token.location)
  /-- The errors stand one behind the other. -/
  ordered : (run.tokens.filter (·.kind = .error)).Pairwise fun first second =>
    first.location.Before second.location
  /-- Each of them is about a piece of the source. -/
  describes : ∀ diagnostic ∈ run.collector.toList, ∃ front text behind,
    source = front ++ (text ++ behind) ∧ diagnostic.Describes filename front text behind
  /-- A comment that does not close is the last thing in front of the end of the input. -/
  comment_last : ∀ front diagnostic back lexeme,
    run.collector.toList = front ++ diagnostic :: back →
      diagnostic.cause = .unterminatedComment lexeme →
      back = [] ∧ ∃ tokens token final, run.tokens = tokens ++ [token, final]
        ∧ token.kind = .error ∧ token.lexeme = diagnostic.lexeme
        ∧ some token.location = diagnostic.location ∧ final.kind = .endOfInput

/-- A run that is made of all the scans of its source is diagnosed. -/
theorem Lexer.Run.Yields.diagnosed {run : Run} {filename : String} {keep : Nat → Bool}
    {cursor : Cursor} (h : run.Yields (cursor.scans filename keep) {})
    (hformed : cursor.WellFormed) : run.Diagnosed filename cursor.source where
  errors := by
    rw [h.toList_collector, h.tokens]
    exact Scan.map_label_diagnostics fun _ => Cursor.coherent_of_mem_scans
  ordered := by
    rw [h.tokens]
    exact (Cursor.pairwise_before_scans filename keep hformed).filter _
  describes := by
    intro diagnostic hmem
    rw [h.toList_collector] at hmem
    obtain ⟨scan, hscan, hdiagnostic⟩ := List.mem_filterMap.1 hmem
    obtain ⟨found, hfound, rfl⟩ := List.mem_map.1 hscan
    obtain ⟨front, behind, hin⟩ := exists_in_of_mem_outline hfound
    refine ⟨_, _, _, ?_, hin.describes hformed hdiagnostic⟩
    rw [Cursor.source, hin.text_eq]
    simp only [List.append_assoc]
  comment_last := by
    intro front diagnostic back lexeme hsplit hcause
    rw [h.toList_collector] at hsplit
    obtain ⟨before, found, after, houtline, hdiagnostic, hback⟩ :=
      Cursor.exists_outline_of_diagnostics hsplit
    have hcause' : found.reading.cause? = some (.unterminatedComment lexeme) := by
      rw [Found.scan, Scan.diagnostic_ofReading] at hdiagnostic
      obtain ⟨cause, hfound, rfl⟩ := Option.map_eq_some_iff.1 hdiagnostic
      rw [hfound]
      exact congrArg some hcause
    obtain ⟨final, rfl, hfinal⟩ := exists_end_of_comment houtline hcause'
    have hmem : found ∈ outline keep cursor.live := by
      rw [houtline]
      exact List.mem_append_right _ List.mem_cons_self
    have hcoherent : (found.scan filename cursor).Coherent :=
      Cursor.coherent_of_mem_scans (List.mem_map_of_mem hmem)
    obtain ⟨hkind, hlexeme, hlocation⟩ := hcoherent.of_some diagnostic hdiagnostic
    refine ⟨?_, (before.map (Found.scan filename cursor)).map Scan.token, _,
      (final.scan filename cursor).token, ?_, hkind, hlexeme.symm, hlocation.symm, ?_⟩
    · rw [← hback]
      simp [Found.scan, hfinal, Reading.cause?]
    · rw [h.tokens, Cursor.scans, houtline]
      simp
    · rw [Found.kind_scan, hfinal]
      rfl

/-- **Errors and diagnostics belong together one to one.**  A run that nothing stops records one
diagnostic for every token that is an error, with the same text and place and in the order of the
source.  What is wrong shows in that text, and so does how far it goes. -/
theorem Lexer.tokenize_diagnoses (filename source : String) (keepComments : Bool) :
    ∃ run, tokenize (.text source) { filename, keepComments } none = .ok run
      ∧ run.failure = none ∧ run.Diagnosed filename source.toList := by
  have hyields := run_yields filename keepComments source.toList
  have hformed := Cursor.WellFormed.ofText source.toList
  have hdiagnosed := Run.Yields.diagnosed hyields hformed
  rw [Cursor.source_ofText] at hdiagnosed
  refine ⟨_, tokenize_eq_ok_run filename keepComments source, hyields.failure, ?_⟩
  exact ⟨hdiagnosed.errors, hdiagnosed.ordered, hdiagnosed.describes, hdiagnosed.comment_last⟩

end SourceLexer
