import SourceLexer.Proofs.Run

/-!
# The layout of a text does not matter

The tokens of a run are put down again, with other blanks between them, and read once more.  The
same tokens come out and the same faults are found, as long as all blanks but the first ones start
with a line feed.

## Why a line feed

Every lexeme that had something behind it can be told from a line feed: a word or a numeral stops
there, no sign of two characters has one as its second, and what is left of a quotation has stopped
at a line feed already (`Reading.read_text_append_lineFeed`).  Only the last lexeme may have come
to the end of the input in the middle of itself, and it is put down last again.

## Blanks

`Spacing` says what blanks are without looking at what stands behind them: its line comments carry
the line feed that ends them.  `Spacing.gap` makes a gap of it, in front of any text.
-/

namespace SourceLexer

open Lexeme

/-- Blank characters and comments, each with all that ends it. -/
inductive Lexeme.Spacing : List Char → Prop where
  | nil : Spacing []
  | blank {char : Char} {rest : List Char} : isBlank char = true → Spacing rest →
      Spacing (char :: rest)
  | line {body rest : List Char} : '\n' ∉ body → Spacing rest →
      Spacing ('/' :: '/' :: body ++ '\n' :: rest)
  | block {body rest : List Char} : ¬ Comment.closer <:+: body → Spacing rest →
      Spacing ('/' :: '*' :: (body ++ Comment.closer) ++ rest)

/-- Spacing may stand in front of any text. -/
theorem Lexeme.Spacing.gap {text : List Char} (h : Spacing text) (behind : List Char) :
    Gap false text behind := by
  induction h with
  | nil => exact .nil
  | blank hblank _ ih => exact .blank hblank ih
  | @line body rest hbody _ ih =>
    refine .comment rfl (.line hbody ?_) (.blank (by decide) ih)
    intro char hchar
    exact (Option.some.inj hchar).symm
  | block hbody _ ih => exact .comment rfl (.block hbody) ih

/-- Texts with other texts between them. -/
def layOut (texts gaps : List (List Char)) : List Char :=
  (List.zipWith (· ++ ·) texts (gaps ++ [[]])).flatten

theorem layOut_singleton (text : List Char) : layOut [text] [] = text := by
  simp [layOut]

theorem layOut_cons_cons (text gap : List Char) (texts gaps : List (List Char)) :
    layOut (text :: texts) (gap :: gaps) = text ++ (gap ++ layOut texts gaps) := by
  simp [layOut]

theorem mem_of_mem_layOut {char : Char} {texts gaps : List (List Char)}
    (h : char ∈ layOut texts gaps) : (∃ text ∈ texts, char ∈ text) ∨ ∃ gap ∈ gaps, char ∈ gap := by
  induction texts generalizing gaps with
  | nil => simp [layOut] at h
  | cons text texts ih =>
    cases gaps with
    | nil =>
      have htext : char ∈ text := by simpa [layOut] using h
      exact .inl ⟨text, List.mem_cons_self, htext⟩
    | cons gap gaps =>
      rw [layOut_cons_cons, List.mem_append, List.mem_append] at h
      rcases h with htext | hgap | hrest
      · exact .inl ⟨text, List.mem_cons_self, htext⟩
      · exact .inr ⟨gap, List.mem_cons_self, hgap⟩
      · rcases ih hrest with ⟨further, hmem, hchar⟩ | ⟨further, hmem, hchar⟩
        · exact .inl ⟨further, List.mem_cons_of_mem text hmem, hchar⟩
        · exact .inr ⟨further, List.mem_cons_of_mem gap hmem, hchar⟩

/-- Text without tokens: spacing that does not end the input. -/
structure IsLayout (text : List Char) : Prop where
  spacing : Spacing text
  endMark_notMem : endMark ∉ text

/-! ## Readings that are put down again -/

namespace Lexeme

/-- A lexeme with something behind it is a piece in front of a line feed as well. -/
theorem Piece.lineFeed {gap first behind : List Char} {reading : Reading}
    (h : Piece false gap reading behind) (hbehind : behind ≠ []) (hfirst : Spacing first)
    (rest : List Char) : Piece false first reading ('\n' :: rest) := by
  have htext : (Reading.read (reading.text ++ behind)).text ≠ reading.text ++ behind := by
    rw [h.read_eq]
    intro heq
    exact hbehind (List.append_right_eq_self.1 heq.symm)
  have hread := Reading.read_text_append_lineFeed htext rest
  rw [h.read_eq] at hread
  exact h.relocate (fun _ => h.kind_ne_comment rfl) (hfirst.gap _) hread

/-- Every lexeme is a piece at the end of the input as well. -/
theorem Piece.alone {gap first behind : List Char} {reading : Reading}
    (h : Piece false gap reading behind) (hfirst : Spacing first) :
    Piece false first reading [] := by
  have hread := Reading.read_text (reading.text ++ behind)
  rw [h.read_eq] at hread
  refine h.relocate (fun _ => h.kind_ne_comment rfl) (hfirst.gap _) ?_
  rwa [List.append_nil]

/-- The readings of a text, one by one. -/
structure Readings (text : List Char) (readings : List Reading) : Prop where
  outline_eq : (outline (always false) text).map Found.reading = readings ++ [.endOfInput]
  kind_ne : ∀ reading ∈ readings, reading.kind ≠ .endOfInput

theorem Readings.of_gap {gap : List Char} (h : Gap false gap []) : Readings gap [] where
  outline_eq := by
    rw [outline_always_gap h]
    rfl
  kind_ne _ hmem := absurd hmem List.not_mem_nil

theorem Readings.cons {gap behind : List Char} {reading : Reading} {readings : List Reading}
    (hpiece : Piece false gap reading behind) (h : Readings behind readings) :
    Readings (gap ++ (reading.text ++ behind)) (reading :: readings) where
  outline_eq := by
    rw [outline_always_piece hpiece, List.map_cons, List.map_map, List.cons_append,
      ← h.outline_eq]
    rfl
  kind_ne := List.forall_mem_cons.2 ⟨hpiece.kind_ne_endOfInput, h.kind_ne⟩

/-- They are all that is found before the end of the input. -/
theorem Readings.filter_eq {text : List Char} {readings : List Reading}
    (h : Readings text readings) :
    ((outline (always false) text).map Found.reading).filter
      (fun reading => reading.kind ≠ .endOfInput) = readings := by
  have hall : readings.filter (fun reading => reading.kind ≠ .endOfInput) = readings :=
    List.filter_eq_self.2 fun reading hmem => decide_eq_true (h.kind_ne reading hmem)
  rw [h.outline_eq, List.filter_append, hall]
  exact List.append_nil readings

/-- Where there is nothing to read there are no readings. -/
theorem Readings.eq_nil {readings : List Reading} (h : Readings [] readings) : readings = [] := by
  have houtline := h.outline_eq
  rw [outline_always_gap .nil] at houtline
  have hlength := congrArg List.length houtline
  rw [List.length_append] at hlength
  exact List.length_eq_zero_iff.1 (by simpa using hlength.symm)

/-- The readings of a text are read again when their texts are laid out in another way. -/
theorem exists_readings_layOut (text : List Char) :
    ∃ readings, Readings text readings
      ∧ (∀ reading ∈ readings, ∀ char ∈ reading.text, char ∈ text)
      ∧ ∀ first gaps, Spacing first →
          (∀ gap ∈ gaps, Spacing gap ∧ gap.head? = some '\n') →
          gaps.length = readings.length - 1 →
          Readings (first ++ layOut (readings.map Reading.text) gaps) readings := by
  induction text using outline_induction_always false with
  | gap gap hgap =>
    refine ⟨[], .of_gap hgap, fun _ hmem => absurd hmem List.not_mem_nil, ?_⟩
    intro first gaps hfirst _ hlength
    rw [List.length_eq_zero_iff.1 hlength, List.map_nil]
    exact .of_gap (by simpa [layOut] using hfirst.gap [])
  | piece gap reading behind hpiece ih =>
    obtain ⟨readings, hreadings, hmem, hlaid⟩ := ih
    refine ⟨reading :: readings, hreadings.cons hpiece, ?_, ?_⟩
    · intro further hfurther char hchar
      rw [List.mem_append, List.mem_append]
      rcases List.mem_cons.1 hfurther with rfl | hfurther
      · exact .inr (.inl hchar)
      · exact .inr (.inr (hmem further hfurther char hchar))
    · intro first gaps hfirst hgaps hlength
      cases readings with
      | nil =>
        rw [List.length_eq_zero_iff.1 hlength, List.map_singleton, layOut_singleton]
        have halone := Readings.cons (hpiece.alone hfirst) (.of_gap .nil)
        rwa [List.append_nil] at halone
      | cons second readings =>
        have hbehind : behind ≠ [] := by
          rintro rfl
          cases hreadings.eq_nil
        cases gaps with
        | nil => simp at hlength
        | cons gap gaps =>
          obtain ⟨⟨hspacing, hhead⟩, hlater⟩ := List.forall_mem_cons.1 hgaps
          obtain ⟨rest, rfl⟩ := List.head?_eq_some_iff.1 hhead
          have hrest := hlaid ('\n' :: rest) gaps hspacing hlater (by simpa using hlength)
          rw [List.map_cons, layOut_cons_cons]
          exact hrest.cons (hpiece.lineFeed hbehind hfirst _)

end Lexeme

/-! ## Runs over texts with the same readings -/

namespace Lexer

variable {filename : String} {text : List Char} {readings : List Reading}

theorem tokens_run_of_readings (h : Readings (Cursor.ofText text).live readings) :
    (run filename false text).tokens.map Token.content
      = readings.map Reading.content ++ [(.endOfInput, none)] := by
  rw [(run_yields filename false text).tokens, Cursor.map_content_scans, h.outline_eq,
    List.map_append]
  rfl

theorem causes_run_of_readings (h : Readings (Cursor.ofText text).live readings) :
    (run filename false text).collector.toList.map Diagnostic.cause
      = readings.filterMap Reading.cause? := by
  rw [toList_collector_run, Cursor.map_cause_scans, h.outline_eq, List.filterMap_append]
  exact List.append_nil _

/-- Apart from the end of the input they are those of the readings. -/
theorem contents_run_of_readings (h : Readings (Cursor.ofText text).live readings) :
    (run filename false text).withoutEnd.map Token.content = readings.map Reading.content := by
  have hall : ∀ content ∈ readings.map Reading.content,
      decide (content.1 ≠ .endOfInput) = true := by
    intro content hcontent
    obtain ⟨reading, hmem, rfl⟩ := List.mem_map.1 hcontent
    exact decide_eq_true (h.kind_ne reading hmem)
  have hmap : (run filename false text).withoutEnd.map Token.content
      = ((run filename false text).tokens.map Token.content).filter
          (fun content => content.1 ≠ .endOfInput) := by
    rw [List.filter_map]
    rfl
  rw [hmap, tokens_run_of_readings h, List.filter_append, List.filter_eq_self.2 hall]
  exact List.append_nil _

/-- The texts of the tokens are those of the readings. -/
theorem texts_run_of_readings (h : Readings (Cursor.ofText text).live readings) :
    (run filename false text).withoutEnd.map (fun token => token.text.toList)
      = readings.map Reading.text := by
  have hscans := Cursor.filter_kind_scans filename (always false) (Cursor.ofText text)
    fun kind => kind ≠ .endOfInput
  have hfilter := h.filter_eq
  rw [List.filter_map] at hfilter
  rw [Run.withoutEnd, (run_yields filename false text).tokens, List.filter_map, List.map_map]
  show ((Cursor.scans _ _ _).filter fun scan => decide (scan.token.kind ≠ .endOfInput)).map _ = _
  rw [hscans, List.map_map, ← hfilter, List.map_map]
  refine List.map_congr_left ?_
  intro found hfound
  obtain ⟨rest, hrest⟩ := exists_read_of_mem_outline (List.mem_of_mem_filter hfound)
  obtain ⟨start, reading⟩ := found
  obtain rfl : reading = Reading.read rest := hrest
  exact Found.text_token_scan filename (Cursor.ofText text) start rest

/-- **The layout of a text does not matter.**  The tokens of a run, laid out in any way in which
all blanks but the first ones start with a line feed, are read again, and so is what is wrong. -/
theorem tokenize_layOut (filename source : String) {plain : Run} {first : List Char}
    {gaps : List (List Char)} (hplain : tokenize (.text source) { filename } none = .ok plain)
    (hfirst : IsLayout first) (hgaps : ∀ gap ∈ gaps, IsLayout gap ∧ gap.head? = some '\n')
    (hlength : gaps.length = plain.withoutEnd.length - 1) :
    ∃ again,
      tokenize
          (.text (String.ofList
            (first ++ layOut (plain.withoutEnd.map fun token => token.text.toList) gaps)))
          { filename } none
        = .ok again
      ∧ again.failure = none
      ∧ again.tokens.map Token.content
          = plain.withoutEnd.map Token.content ++ [(.endOfInput, none)]
      ∧ again.collector.toList.map Diagnostic.cause
          = plain.collector.toList.map Diagnostic.cause := by
  obtain ⟨htokens, hcollector⟩ := eq_run_of_tokenize hplain
  have hwithout : plain.withoutEnd = (run filename false source.toList).withoutEnd := by
    rw [Run.withoutEnd, Run.withoutEnd, htokens]
  rw [hwithout] at hlength ⊢
  rw [hcollector]
  obtain ⟨readings, hreadings, hmem, hlaid⟩ :=
    exists_readings_layOut (Cursor.ofText source.toList).live
  have htexts : (run filename false source.toList).withoutEnd.map (fun token => token.text.toList)
      = readings.map Reading.text := texts_run_of_readings hreadings
  have hcount : (run filename false source.toList).withoutEnd.length = readings.length := by
    rw [← List.length_map (fun token : Token => token.text.toList), htexts, List.length_map]
  have hspacing : ∀ gap ∈ gaps, Spacing gap ∧ gap.head? = some '\n' :=
    fun gap hgap => ⟨(hgaps gap hgap).1.spacing, (hgaps gap hgap).2⟩
  have hagain := hlaid first gaps hfirst.spacing hspacing (hcount ▸ hlength)
  have hend : endMark ∉ first ++ layOut (readings.map Reading.text) gaps := by
    intro hmark
    rcases List.mem_append.1 hmark with hmark | hmark
    · exact hfirst.endMark_notMem hmark
    · rcases mem_of_mem_layOut hmark with ⟨text, htext, hmark⟩ | ⟨gap, hgap, hmark⟩
      · obtain ⟨reading, hreading, rfl⟩ := List.mem_map.1 htext
        exact notMem_takeWhile endMark source.toList (hmem reading hreading endMark hmark)
      · exact (hgaps gap hgap).1.endMark_notMem hmark
  rw [← htexts] at hagain hend
  rw [← Cursor.live_ofText_of_notMem hend] at hagain
  refine ⟨_, tokenize_eq_ok_run filename false _, (run_yields filename false _).failure, ?_, ?_⟩
  · show (run filename false _).tokens.map _ = _
    rw [String.toList_ofList, tokens_run_of_readings hagain, contents_run_of_readings hreadings]
  · show (run filename false _).collector.toList.map _ = _
    rw [String.toList_ofList, causes_run_of_readings hagain, causes_run_of_readings hreadings]

/-- A division and a quotation that does not close, over five lines instead of one. -/
theorem tokenize_layOut_division :
    ∃ again,
      tokenize (.text "/**/a\n//c\n/\n b\n'q") {} none = .ok again
      ∧ again.failure = none
      ∧ again.tokens.map Token.content
          = [(.identifier, some "a"), (.symbol .divide, none), (.identifier, some "b"),
              (.error, some "'q"), (.endOfInput, none)]
      ∧ again.collector.toList.map Diagnostic.cause = [.unterminatedCharacter "'q"] := by
  have hfirst : IsLayout ['/', '*', '*', '/'] :=
    ⟨@Spacing.block [] [] (by decide) .nil, by decide⟩
  have hline : IsLayout ['\n', '/', '/', 'c', '\n'] :=
    ⟨.blank rfl (@Spacing.line ['c'] [] (by decide) .nil), by decide⟩
  have hindent : IsLayout ['\n', ' '] := ⟨.blank rfl (.blank rfl .nil), by decide⟩
  have hfeed : IsLayout ['\n'] := ⟨.blank rfl .nil, by decide⟩
  have hgaps : ∀ gap ∈ [['\n', '/', '/', 'c', '\n'], ['\n', ' '], ['\n']],
      IsLayout gap ∧ gap.head? = some '\n' := by
    intro gap hgap
    simp only [List.mem_cons, List.not_mem_nil, or_false] at hgap
    rcases hgap with rfl | rfl | rfl
    · exact ⟨hline, rfl⟩
    · exact ⟨hindent, rfl⟩
    · exact ⟨hfeed, rfl⟩
  have hplain := tokenize_eq_ok_run "<input>" false "a/b 'q"
  obtain ⟨again, hagain, hfailure, hcontents, hcauses⟩ :=
    tokenize_layOut "<input>" "a/b 'q" hplain hfirst hgaps (by decide +kernel)
  refine ⟨again, ?_, hfailure, ?_, ?_⟩
  · rw [← hagain]
    congr 2
    decide +kernel
  · exact hcontents.trans (by decide +kernel)
  · exact hcauses.trans (by decide +kernel)

end Lexer
end SourceLexer
