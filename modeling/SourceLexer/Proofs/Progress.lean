import SourceLexer.Proofs.Calls
import SourceLexer.Proofs.Reach

/-!
# Every call gets on

A call for a token either comes to the end of the input or leaves less to read, and this does not
depend on whether it returns a token or fails.  So nobody who keeps calling has to wait longer for
the end than there are characters left, and once there a lexer stays where it is.

## Nothing unforeseen

Scanning makes tokens and diagnostics without asking whether they can be made.  Where a caller's
token would be checked, those of a scan are good as they are (`Cursor.check_token_scan`), and where
a text has to be one character long, it is (`Cursor.ofCharacterText_scan`).  What is left for a
call to fail from is the caller's own wish to be stopped.
-/

namespace SourceLexer

open Lexeme

/-! ## What a scan makes -/

/-- A reading has a lexeme if the kind of its token carries one, and only then. -/
theorem Lexeme.Reading.Faithful.isSome_lexeme {reading : Reading} (h : reading.Faithful) :
    reading.lexeme.isSome = reading.kind.carriesText := by
  cases reading with
  | endOfInput => rfl
  | token kind lexeme text => exact h.2.1
  | fault cause text =>
    have hlexeme : cause.lexeme = some (String.ofList text) := h
    show cause.lexeme.isSome = true
    rw [hlexeme]
    rfl

namespace Cursor

variable (options : Options) (cursor : Cursor)

/-- The token of a scan would pass the check of tokens, unchanged. -/
theorem check_token_scan :
    (cursor.scan options).token.toDraft.check = .ok (cursor.scan options).token := by
  rw [Token.check_toDraft, scan, Scan.token_ofReading]
  exact (Reading.faithful_read _).isSome_lexeme

/-- The lexeme of a character with which no token starts is one character long. -/
theorem ofCharacterText_scan {diagnostic : Diagnostic} {char : Char}
    (h : (cursor.scan options).diagnostic = some diagnostic)
    (hcause : diagnostic.cause = .invalidCharacter char) :
    ∃ text, (cursor.scan options).token.lexeme = some text
      ∧ Diagnostic.Cause.ofCharacterText text = .ok diagnostic.cause := by
  rw [scan, Scan.diagnostic_ofReading, Option.map_eq_some_iff] at h
  obtain ⟨cause, hread, rfl⟩ := h
  obtain rfl : cause = .invalidCharacter char := hcause
  refine ⟨char.toString, ?_, by simp [Diagnostic.Cause.ofCharacterText, Scan.diagnosticAt]⟩
  rw [scan, Scan.token_ofReading]
  generalize Reading.read _ = reading at hread
  cases reading with
  | fault cause text =>
    obtain rfl : cause = .invalidCharacter char := Option.some.inj hread
    rfl
  | _ => cases hread

/-! ## Where a scan comes to -/

/-- A scan that has nothing to read finds the end of the input where it stands. -/
theorem scan_of_live_eq_nil {cursor : Cursor} (h : cursor.live = []) :
    cursor.scan options = ⟨Scan.tokenAt options cursor .endOfInput none, none, cursor⟩ := by
  have hscan : cursor.scan options = Found.scan options.filename cursor ⟨0, .endOfInput⟩ :=
    scan_of_gap .nil h
  rw [hscan]
  rfl

/-- A scan comes to the end of the input, and from there no further, or it leaves less to read. -/
theorem scan_cases :
    ((cursor.scan options).token.kind = .endOfInput ∧ (cursor.scan options).diagnostic = none
        ∧ (cursor.scan options).cursor.live = []
        ∧ (cursor.scan options).cursor.scan options = cursor.scan options)
      ∨ ((cursor.scan options).token.kind ≠ .endOfInput
        ∧ cursor.index < (cursor.scan options).cursor.index) := by
  cases hlive : (cursor.skipBlanks options.keepComments).live with
  | nil =>
    have hscan : cursor.scan options
        = ⟨Scan.tokenAt options (cursor.skipBlanks options.keepComments) .endOfInput none, none,
            cursor.skipBlanks options.keepComments⟩ := by
      rw [scan, hlive]
      rfl
    refine .inl ⟨by rw [hscan]; rfl, by rw [hscan], by rw [hscan]; exact hlive, ?_⟩
    rw [hscan]
    exact scan_of_live_eq_nil options hlive
  | cons char rest =>
    have hpos := Reading.length_text_read_pos char rest
    have hkind : (cursor.scan options).token.kind ≠ .endOfInput := by
      rw [scan, Scan.token_ofReading, hlive]
      exact Reading.kind_read_ne_endOfInput (List.ne_nil_of_length_pos hpos)
    have hshort := Scan.live_length_lt_of_scan hkind
    refine .inr ⟨hkind, ?_⟩
    rw [cursor_scan, live_advanceBy, List.length_drop] at hshort
    rw [cursor_scan, index_advanceBy]
    omega

end Cursor

namespace Lexer

variable {lexer : Lexer} {collector : Collector}

/-! ## At the end of the input -/

/-- Where a call moves nothing, no further call does. -/
theorem callAt_of_fixed {token : Token}
    (h : ∀ collector, lexer.next collector = ⟨.ok token, lexer, collector⟩)
    (collector : Collector) (call : Nat) :
    callAt (fun _ => lexer.options) lexer collector call = ⟨.ok token, lexer, collector⟩ := by
  have hstate : stateBefore (fun _ => lexer.options) lexer collector call = (lexer, collector) := by
    induction call with
    | zero => rfl
    | succ call ih =>
      rw [stateBefore, ih]
      simp only [h]
  rw [callAt, hstate]
  exact h collector

/-- A call on an open lexer comes to the end of the input, where all further calls stay, or it
moves the cursor on. -/
theorem next_cases (hopen : lexer.closed = false) (collector : Collector) :
    (∃ final, (lexer.next collector).outcome = .ok final ∧ final.kind = .endOfInput
        ∧ (lexer.next collector).lexer.cursor.live = []
        ∧ ∀ collector' call,
          callAt (fun _ => lexer.options) (lexer.next collector).lexer collector' call
            = ⟨.ok final, (lexer.next collector).lexer, collector'⟩)
      ∨ (lexer.cursor.index < (lexer.next collector).lexer.cursor.index
        ∧ ∀ token, (lexer.next collector).outcome = .ok token → token.kind ≠ .endOfInput) := by
  have hmoved : (Lexer.mk (lexer.cursor.scan lexer.options).cursor lexer.options
      lexer.closed).closed = false := hopen
  rw [next_of_open hopen]
  rcases Cursor.scan_cases lexer.options lexer.cursor with
    ⟨hkind, hnone, hlive, hagain⟩ | ⟨hkind, hindex⟩
  · have hsettle : ∀ collector,
        settle lexer.options.strict (lexer.cursor.scan lexer.options) collector
          = (.ok (lexer.cursor.scan lexer.options).token, collector) :=
      settle_of_none hnone lexer.options.strict
    have hfixed : ∀ collector,
        Lexer.next { lexer with cursor := (lexer.cursor.scan lexer.options).cursor } collector
          = ⟨.ok (lexer.cursor.scan lexer.options).token,
              { lexer with cursor := (lexer.cursor.scan lexer.options).cursor }, collector⟩ := by
      intro collector
      rw [next_of_open hmoved, hagain, hsettle]
    refine .inl ⟨_, congrArg Prod.fst (hsettle collector), hkind, hlive, ?_⟩
    exact callAt_of_fixed hfixed
  · refine .inr ⟨hindex, ?_⟩
    intro token htoken
    rw [eq_token_of_settle htoken]
    exact hkind

/-- Unless it comes to the end of the input, a call leaves less to read. -/
theorem end_or_length_live_lt (hopen : lexer.closed = false) (collector : Collector) :
    (∃ final, (lexer.next collector).outcome = .ok final ∧ final.kind = .endOfInput)
      ∨ (lexer.next collector).lexer.cursor.live.length < lexer.cursor.live.length := by
  rcases next_cases hopen collector with ⟨final, hfinal, hkind, -⟩ | ⟨hindex, -⟩
  · exact .inl ⟨final, hfinal, hkind⟩
  · obtain ⟨count, hcount⟩ : ∃ count,
        (lexer.next collector).lexer.cursor = lexer.cursor.advanceBy count :=
      Session.Call.Single.next.exists_advanceBy lexer collector
    have hsum := Cursor.index_add_length_live_advanceBy count lexer.cursor
    rw [← hcount] at hsum
    right
    omega

/-- In a row of calls the end of the input comes before the characters are used up. -/
theorem end_or_length_live_add_le (hopen : lexer.closed = false) (configure : Nat → Options)
    (collector : Collector) (calls : Nat) :
    (∃ call < calls, ∃ final, (callAt configure lexer collector call).outcome = .ok final
        ∧ final.kind = .endOfInput)
      ∨ (stateBefore configure lexer collector calls).1.cursor.live.length + calls
          ≤ lexer.cursor.live.length := by
  induction calls with
  | zero => exact .inr le_rfl
  | succ calls ih =>
    rcases ih with ⟨call, hcall, hend⟩ | hleft
    · exact .inl ⟨call, Nat.lt_succ_of_lt hcall, hend⟩
    · have hcall : (∃ final, (callAt configure lexer collector calls).outcome = .ok final
            ∧ final.kind = .endOfInput)
          ∨ (callAt configure lexer collector calls).lexer.cursor.live.length
            < (stateBefore configure lexer collector calls).1.cursor.live.length :=
        end_or_length_live_lt (closed_stateBefore hopen calls) _
      rcases hcall with ⟨final, hfinal, hkind⟩ | hless
      · exact .inl ⟨calls, Nat.lt_succ_self calls, final, hfinal, hkind⟩
      · refine .inr ?_
        show (callAt configure lexer collector calls).lexer.cursor.live.length + (calls + 1) ≤ _
        omega

/-- **Every call gets on.**  Wherever calls have left a lexer, a call for a token comes to the first
end mark or the end of the source and stays there, or it moves on, even if it fails.  The end comes
after no more calls than there are characters left, and one.  What a scan makes is good as it is,
so where the caller does not ask to be stopped no call fails. -/
theorem next_gets_on {source : String} (h : Reached source.toList lexer)
    (hopen : lexer.closed = false) (collector : Collector) :
    ((∃ final, (lexer.next collector).outcome = .ok final ∧ final.kind = .endOfInput
          ∧ (lexer.next collector).lexer.cursor.index
              = (source.toList.takeWhile (· != endMark)).length
          ∧ ∀ collector' call,
            callAt (fun _ => lexer.options) (lexer.next collector).lexer collector' call
              = ⟨.ok final, (lexer.next collector).lexer, collector'⟩)
        ∨ (lexer.cursor.index < (lexer.next collector).lexer.cursor.index
          ∧ ∀ token, (lexer.next collector).outcome = .ok token → token.kind ≠ .endOfInput))
      ∧ (∀ configure : Nat → Options,
          ∃ call ≤ ((source.toList.drop lexer.cursor.index).takeWhile (· != endMark)).length,
          ∃ final, (callAt configure lexer collector call).outcome = .ok final
            ∧ final.kind = .endOfInput)
      ∧ (lexer.cursor.scan lexer.options).token.toDraft.check
          = .ok (lexer.cursor.scan lexer.options).token
      ∧ (∀ diagnostic char, (lexer.cursor.scan lexer.options).diagnostic = some diagnostic →
          diagnostic.cause = .invalidCharacter char →
          ∃ text, (lexer.cursor.scan lexer.options).token.lexeme = some text
            ∧ Diagnostic.Cause.ofCharacterText text = .ok diagnostic.cause)
      ∧ (lexer.options.strict = false → collector.limit = none →
          (lexer.next collector).outcome = .ok (lexer.cursor.scan lexer.options).token) := by
  have hformed := h.wellFormed
  have hnext : Reached source.toList (lexer.next collector).lexer := h.call .next collector
  refine ⟨?_, ?_, ?_, ?_, ?_⟩
  · rcases next_cases hopen collector with ⟨final, hfinal, hkind, hlive, hstays⟩ | hmore
    · refine .inl ⟨final, hfinal, hkind, ?_, hstays⟩
      have htext := hnext.wellFormed.takeWhile_source
      rw [hnext.source_eq, hlive, List.append_nil] at htext
      rw [htext, List.length_reverse]
      rfl
    · exact .inr hmore
  · intro configure
    have hlive := hformed.takeWhile_drop_source
    rw [h.source_eq] at hlive
    rw [hlive]
    rcases end_or_length_live_add_le hopen configure collector (lexer.cursor.live.length + 1) with
      ⟨call, hcall, hend⟩ | hleft
    · exact ⟨call, Nat.le_of_lt_succ hcall, hend⟩
    · omega
  · exact Cursor.check_token_scan lexer.options lexer.cursor
  · intro diagnostic char hdiagnostic hcause
    exact Cursor.ofCharacterText_scan lexer.options lexer.cursor hdiagnostic hcause
  · intro hstrict hlimit
    rw [next_of_no_limit hopen hstrict hlimit]

/-- A call that fails at a backslash in front of an end mark, after one that has failed before. -/
theorem next_gets_on_past_backslash :
    ∃ lexer, Reached "@'\\\x00#".toList lexer ∧ lexer.closed = false
      ∧ (lexer.next {}).outcome
          = .error (.lexical ⟨.unterminatedCharacter "'\\", some ⟨"<input>", 1, 2⟩,
              some "@'\\\x00#"⟩)
      ∧ lexer.cursor.index < (lexer.next {}).lexer.cursor.index
      ∧ ∃ call ≤ 2, ∃ final,
          (callAt (fun _ => { strict := true }) lexer {} call).outcome = .ok final
            ∧ final.kind = .endOfInput := by
  have hstart : Reached "@'\\\x00#".toList (fresh { strict := true } _) := .fresh _
  have hbehind := hstart.call .next {}
  have hfails : (Lexer.next
      (Session.Call.next (fresh { strict := true } "@'\\\x00#".toList) {}).lexer {}).outcome
        = .error (.lexical ⟨.unterminatedCharacter "'\\", some ⟨"<input>", 1, 2⟩,
            some "@'\\\x00#"⟩) := by decide +kernel
  obtain ⟨hnext, hend, -, -, -⟩ := next_gets_on hbehind (by decide +kernel) {}
  refine ⟨_, hbehind, by decide +kernel, hfails, ?_, ?_⟩
  · rcases hnext with ⟨final, hfinal, -⟩ | ⟨hindex, -⟩
    · rw [hfails] at hfinal
      cases hfinal
    · exact hindex
  · obtain ⟨call, hcall, hfinal⟩ := hend fun _ => { strict := true }
    exact ⟨call, hcall.trans (by decide +kernel), hfinal⟩

end Lexer
end SourceLexer
