import SourceLexer.Proofs.Run

/-!
# Comments are transparent

Whether comments are tokens may be decided anew for every call.  Whatever is decided, the tokens
that are no comments are the same, at the same places, and the same diagnostics are recorded.

## Two ways over a comment

A comment that is not wanted is passed over with the blanks, after looking ahead for its end; one
that is wanted is read.  These are different calls, and a run that keeps comments makes more of
them.  `filter_outline` compares the outlines without counting calls: where a comment is kept, the
rest of the outline is that of the text behind it, and where it is passed over it lengthens the
gap.

## Comments that do not close

Neither way is open to a block comment that does not close.  It is no gap and no complete comment,
so it is bad text in every run that has it left to read (`contents_drainWith_of_open_comment`).
-/

namespace SourceLexer

open Lexeme

/-! ## Outlines without comments -/

/-- Without its comments an outline is the same under every schedule. -/
theorem Lexeme.filter_outline (keep : Nat → Bool) (text : List Char) :
    (outline keep text).filter (fun found => found.reading.kind ≠ .comment)
      = outline (always false) text := by
  induction keep, text using outline_induction with
  | gap keep gap hgap =>
    rw [outline_gap hgap, outline_always_gap hgap.of_keepComments]
    rfl
  | piece keep gap reading behind hpiece ih =>
    have hshift : ∀ distance, ((outline (later keep) behind).map (Found.shift distance)).filter
        (fun found => found.reading.kind ≠ .comment)
          = (outline (always false) behind).map (Found.shift distance) := by
      intro distance
      rw [List.filter_map, ← ih]
      rfl
    rw [outline_piece hpiece]
    by_cases hkind : reading.kind = .comment
    · -- the comment is dropped here, and there it belongs to the gap
      have hgap : Gap (always false 0) (gap ++ reading.text) behind := by
        refine hpiece.isGap.of_keepComments.append ?_
        have hcomment : Gap false (reading.text ++ []) behind :=
          .comment rfl (hpiece.complete hkind) .nil
        rwa [List.append_nil] at hcomment
      rw [List.filter_cons_of_neg (by simpa using hkind), hshift, ← List.append_assoc,
        outline_gap_append hgap, List.length_append]
    · rw [List.filter_cons_of_pos (by simpa using hkind), hshift,
        outline_always_piece (hpiece.of_ne_comment hkind)]

namespace Cursor

variable (filename : String) (keep : Nat → Bool) (cursor : Cursor)

/-- Without those of comments the scans are the same under every schedule. -/
theorem filter_scans :
    (cursor.scans filename keep).filter (fun scan => scan.token.kind ≠ .comment)
      = cursor.scans filename (always false) := by
  show _ = (outline (always false) cursor.live).map (Found.scan filename cursor)
  rw [← filter_outline keep]
  exact filter_kind_scans filename keep cursor fun kind => kind ≠ .comment

/-- Comments have no diagnostics, so these are the same under every schedule as well. -/
theorem filterMap_diagnostic_scans :
    (cursor.scans filename keep).filterMap Scan.diagnostic
      = (cursor.scans filename (always false)).filterMap Scan.diagnostic := by
  rw [← filter_scans filename keep cursor]
  exact (filterMap_diagnostic_filter_scans filename keep cursor (fun kind => kind ≠ .comment)
    rfl).symm

end Cursor

/-! ## Comments among the tokens -/

/-- A token that is a comment shows a complete one. -/
theorem Cursor.complete_of_mem_scans {filename : String} {keep : Nat → Bool} {cursor : Cursor}
    {scan : Scan} (h : scan ∈ cursor.scans filename keep) (hkind : scan.token.kind = .comment) :
    ∃ behind, Comment.Complete scan.token.text.toList behind := by
  obtain ⟨⟨start, reading⟩, hfound, rfl⟩ := List.mem_map.1 h
  obtain ⟨rest, rfl⟩ := exists_read_of_mem_outline hfound
  rw [Found.kind_scan] at hkind
  obtain ⟨comment, behind, rfl, hcomplete⟩ := Reading.complete_of_kind hkind
  refine ⟨behind, ?_⟩
  rw [Found.text_token_scan, Reading.read_of_complete hcomplete]
  exact hcomplete

/-- A block comment that does not close is bad text, all of it. -/
theorem Lexeme.Reading.read_of_open_comment {body : List Char}
    (hbody : ¬ Comment.closer <:+: body) :
    Reading.read ('/' :: '*' :: body) =
      .fault (.unterminatedComment (String.ofList ('/' :: '*' :: body))) ('/' :: '*' :: body) := by
  rw [read_of_style? rfl, Comment.read_block_eq, Comment.readBody_of_no_closer hbody]
  rfl

/-- It is found behind the gap in front of it, and only the end of the input is behind it. -/
theorem Lexeme.outline_of_open_comment {gap body : List Char}
    (hgap : Gap false gap ('/' :: '*' :: body)) (hbody : ¬ Comment.closer <:+: body) :
    (outline (always false) (gap ++ '/' :: '*' :: body)).map Found.reading =
      [.fault (.unterminatedComment (String.ofList ('/' :: '*' :: body))) ('/' :: '*' :: body),
        .endOfInput] := by
  have hread := Reading.read_of_open_comment hbody
  have hpiece : Piece false gap (Reading.read ('/' :: '*' :: body)) [] := by
    rw [hread]
    refine ⟨?_, ?_, ?_, List.cons_ne_nil _ _⟩
    · rw [Reading.text, List.append_nil]
      exact hgap
    · rw [Reading.text, List.append_nil, blanks_eq_nil_iff, hread]
      exact ⟨rfl, fun _ => by rintro ⟨⟩⟩
    · rw [Reading.text, List.append_nil, hread]
  have houtline := outline_always_piece hpiece
  rw [hread, Reading.text, List.append_nil] at houtline
  rw [houtline, outline_always_gap .nil]
  rfl

namespace Lexer

/-- The options of a run whose wish for comments may change with every call. -/
def scheduled (filename : String) (keep : Nat → Bool) (call : Nat) : Options :=
  { filename, keepComments := keep call }

theorem lenient_scheduled (filename : String) (keep : Nat → Bool) :
    Lenient filename (scheduled filename keep) :=
  ⟨fun _ => rfl, fun _ => rfl⟩

variable {lexer : Lexer} {collector : Collector}

/-- Without comments the tokens of a scheduled run are those of the scans that pass over them. -/
theorem filter_tokens_drainWith (hopen : lexer.closed = false) (hlimit : collector.limit = none)
    (filename : String) (keep : Nat → Bool) :
    (drainWith (scheduled filename keep) lexer collector).tokens.filter
        (fun token => token.kind ≠ .comment)
      = (lexer.cursor.scans filename (always false)).map Scan.token := by
  have hyields := drainWith_yields hopen (lenient_scheduled filename keep) hlimit
  rw [hyields.tokens, List.filter_map, ← Cursor.filter_scans filename keep]
  rfl

/-- A scheduled run that has an open comment left to read takes it as bad text. -/
theorem contents_drainWith_of_open_comment (hopen : lexer.closed = false)
    (hlimit : collector.limit = none) (filename : String) (keep : Nat → Bool)
    {gap body : List Char} (hgap : Gap false gap ('/' :: '*' :: body))
    (hbody : ¬ Comment.closer <:+: body) (hlive : lexer.cursor.live = gap ++ '/' :: '*' :: body) :
    ((drainWith (scheduled filename keep) lexer collector).tokens.filter
        (fun token => token.kind ≠ .comment)).map Token.content
      = [(.error, some (String.ofList ('/' :: '*' :: body))), (.endOfInput, none)] := by
  rw [filter_tokens_drainWith hopen hlimit, Cursor.map_content_scans, hlive,
    outline_of_open_comment hgap hbody]
  rfl

/-- The run of a new lexer whose wish for comments may change with every call. -/
def scheduledRun (filename : String) (keep : Nat → Bool) (text : List Char) : Run :=
  drainWith (scheduled filename keep) (fresh {} text) {}

/-- **Comments are transparent.**  Whatever is decided about comments from call to call, the run
takes the tokens of the run that never keeps them, and comments besides, and it records the same
diagnostics.  What it takes for a comment is complete; a comment that does not close is bad text,
wherever in the run it is left to read. -/
theorem scheduledRun_transparent (filename source : String) (keep : Nat → Bool) :
    ∃ plain, tokenize (.text source) { filename } none = .ok plain
      ∧ plain.failure = none
      ∧ (scheduledRun filename keep source.toList).failure = none
      ∧ (scheduledRun filename keep source.toList).tokens.filter
          (fun token => token.kind ≠ .comment) = plain.tokens
      ∧ (scheduledRun filename keep source.toList).collector = plain.collector
      ∧ (∀ token ∈ (scheduledRun filename keep source.toList).tokens,
          token.kind = .comment → ∃ behind, Comment.Complete token.text.toList behind)
      ∧ ∀ (lexer : Lexer) (collector : Collector) (gap body : List Char),
          lexer.closed = false → collector.limit = none →
          Gap false gap ('/' :: '*' :: body) → ¬ Comment.closer <:+: body →
          lexer.cursor.live = gap ++ '/' :: '*' :: body →
          ((drainWith (scheduled filename keep) lexer collector).tokens.filter
              (fun token => token.kind ≠ .comment)).map Token.content
            = [(.error, some (String.ofList ('/' :: '*' :: body))), (.endOfInput, none)] := by
  have hopen : (fresh {} source.toList).closed = false := rfl
  have hlimit : ({} : Collector).limit = none := rfl
  have hplain := run_yields filename false source.toList
  have hyields := drainWith_yields hopen (lenient_scheduled filename keep) hlimit
  refine ⟨_, tokenize_eq_ok_run filename false source, hplain.failure, hyields.failure, ?_, ?_,
    ?_, ?_⟩
  · rw [scheduledRun, filter_tokens_drainWith hopen hlimit]
    exact hplain.tokens.symm
  · rw [scheduledRun, hyields.collector, Cursor.filterMap_diagnostic_scans]
    exact hplain.collector.symm
  · intro token htoken hkind
    rw [scheduledRun, hyields.tokens] at htoken
    obtain ⟨scan, hscan, rfl⟩ := List.mem_map.1 htoken
    exact Cursor.complete_of_mem_scans hscan hkind
  · intro lexer collector gap body hopen' hlimit' hgap hbody hlive
    exact contents_drainWith_of_open_comment hopen' hlimit' filename keep hgap hbody hlive

end Lexer
end SourceLexer
