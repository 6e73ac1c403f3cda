import SourceLexer.Proofs.Diagnosis
import SourceLexer.Proofs.Lexeme.Ahead
import SourceLexer.Proofs.Lines

/-!
# Tokens are settled before the text is complete

More text behind a source changes its last tokens at most.  A token with three characters behind it
stays what it is and where it is, and so does every token in front of it, whatever is put behind
the source.

## Which tokens are settled

`Token.LeavesBehind` says of a token that so many characters of the source stand behind its text.
It speaks of the source and of the token alone.  A token knows its place, and there is only one
front of the source that it can stand behind (`Token.StandsBehind.eq_of_isPrefix`), so for what a
run has found this comes down to where its reading ends (`Cursor.leavesBehind_scan_iff`).

## An end mark in the source

Then nothing further on is read, and all tokens stay as they are.  `exists_live_ofText_append` has
both cases: more text is left to read only if the source has been read to its end.
-/

namespace SourceLexer

open Lexeme

/-- So many characters of the source stand behind the text of the token. -/
def Token.LeavesBehind (token : Token) (source : List Char) (count : Nat) : Prop :=
  ∃ front back, source = front ++ (token.text.toList ++ back) ∧ token.StandsBehind front
    ∧ count ≤ back.length

instance (token : Token) (before : List Char) : Decidable (token.StandsBehind before) :=
  inferInstanceAs (Decidable (_ ∧ _))

/-- The same by the distance at which the token starts. -/
theorem Token.leavesBehind_iff {token : Token} {source : List Char} {count : Nat} :
    token.LeavesBehind source count ↔ ∃ start < source.length + 1,
      token.StandsBehind (source.take start) ∧ token.text.toList <+: source.drop start
        ∧ start + token.text.toList.length + count ≤ source.length := by
  constructor
  · rintro ⟨front, back, rfl, hstands, hcount⟩
    refine ⟨front.length, ?_, ?_, ?_, ?_⟩
    · rw [List.length_append]
      omega
    · rwa [List.take_left]
    · rw [List.drop_left]
      exact List.prefix_append _ back
    · rw [List.length_append, List.length_append]
      omega
  · rintro ⟨start, -, hstands, ⟨back, hback⟩, hcount⟩
    refine ⟨source.take start, back, ?_, hstands, ?_⟩
    · rw [hback, List.take_append_drop]
    · have hlength := congrArg List.length hback
      rw [List.length_append, List.length_drop] at hlength
      omega

instance (token : Token) (source : List Char) (count : Nat) :
    Decidable (token.LeavesBehind source count) :=
  decidable_of_iff _ Token.leavesBehind_iff.symm

/-! ## Outlines of longer texts -/

namespace Lexeme

/-- What is found is settled in a text of the given size if it is more than the end of the input
and leaves three characters behind. -/
def Found.Settled (size : Nat) (found : Found) : Prop :=
  found.reading.kind ≠ .endOfInput ∧ found.start + found.reading.text.length + 3 ≤ size

instance (size : Nat) (found : Found) : Decidable (found.Settled size) :=
  inferInstanceAs (Decidable (_ ∧ _))

/-- A piece with three characters behind it is a piece as well with more text behind them. -/
theorem Piece.append {keepComments : Bool} {gap behind : List Char} {reading : Reading}
    (h : Piece keepComments gap reading behind) (hlength : 3 ≤ behind.length) (more : List Char) :
    Piece keepComments gap reading (behind ++ more) := by
  have hlong : (Reading.read (reading.text ++ behind)).text.length + 3
      ≤ (reading.text ++ behind).length := by
    rw [h.read_eq, List.length_append]
    omega
  have hread := Reading.read_append hlong more
  rw [h.read_eq, List.append_assoc] at hread
  have hne : reading.text ++ behind ≠ [] := List.append_ne_nil_of_left_ne_nil h.text_ne_nil _
  have hgap := h.isGap.append_behind hne more
  rw [List.append_assoc] at hgap
  exact h.relocate h.kind_ne_comment hgap hread

/-- What is settled in a text is found first in every longer one.  Without more text the size does
not matter. -/
theorem filter_settled_isPrefix_outline (keepComments : Bool) (text more : List Char) (size : Nat)
    (h : more = [] ∨ size ≤ text.length) :
    (outline (always keepComments) text).filter (fun found => found.Settled size)
      <+: outline (always keepComments) (text ++ more) := by
  induction text using outline_induction_always keepComments generalizing size with
  | gap gap hgap =>
    have hnone : ([⟨gap.length, .endOfInput⟩] : List Found).filter
        (fun found => found.Settled size) = [] := by
      simp [Found.Settled, Reading.kind]
    rw [outline_always_gap hgap, hnone]
    exact List.nil_prefix
  | piece gap reading behind hpiece ih =>
    rw [outline_always_piece hpiece]
    by_cases hsettled : gap.length + reading.text.length + 3 ≤ size
    · have hjoined : Piece keepComments gap reading (behind ++ more) := by
        rcases h with rfl | hsize
        · rwa [List.append_nil]
        · refine hpiece.append ?_ more
          rw [List.length_append, List.length_append] at hsize
          omega
      have hrest : more = [] ∨ size - (gap.length + reading.text.length) ≤ behind.length := by
        refine h.imp_right ?_
        intro hsize
        rw [List.length_append, List.length_append] at hsize
        omega
      have hshift : (fun found : Found => decide (found.Settled size))
            ∘ Found.shift (gap.length + reading.text.length)
          = fun found : Found =>
              decide (found.Settled (size - (gap.length + reading.text.length))) := by
        funext found
        rw [Function.comp_apply, decide_eq_decide]
        refine and_congr_right fun _ => ?_
        show gap.length + reading.text.length + found.start + found.reading.text.length + 3 ≤ size
          ↔ _
        omega
      have hfirst : decide (Found.Settled size ⟨gap.length, reading⟩) = true :=
        decide_eq_true ⟨hpiece.kind_ne_endOfInput, hsettled⟩
      rw [List.append_assoc, List.append_assoc, outline_always_piece hjoined,
        List.filter_cons, if_pos hfirst, List.filter_map, hshift, List.cons_prefix_cons]
      exact ⟨rfl, (ih _ hrest).map _⟩
    · -- what is found further on ends further on
      have hnone : ∀ found ∈ (⟨gap.length, reading⟩ : Found)
          :: (outline (always keepComments) behind).map
            (Found.shift (gap.length + reading.text.length)),
          ¬ found.Settled size := by
        intro found hfound hend
        rcases List.mem_cons.1 hfound with rfl | hfound
        · exact hsettled hend.2
        · obtain ⟨further, -, rfl⟩ := List.mem_map.1 hfound
          have hle : gap.length + reading.text.length + further.start
              + further.reading.text.length + 3 ≤ size := hend.2
          omega
      rw [List.filter_eq_nil_iff.2 (by simpa using hnone)]
      exact List.nil_prefix

end Lexeme

/-! ## Places in longer texts -/

/-- A token stands behind one front of a text at most. -/
theorem Token.StandsBehind.eq_of_isPrefix {token : Token} {front front' text : List Char}
    (h : token.StandsBehind front) (h' : token.StandsBehind front') (hfront : front <+: text)
    (hfront' : front' <+: text) : front = front' := by
  wlog hle : front <+: front' generalizing front front'
  · have hge := (List.prefix_or_prefix_of_prefix hfront hfront').resolve_left hle
    exact (this h' h hfront' hfront hge).symm
  · obtain ⟨back, rfl⟩ := hle
    by_cases hback : back = []
    · rw [hback, List.append_nil]
    · have hbefore := h.before h' hback
      unfold Location.Before at hbefore
      omega

namespace Cursor

/-- More text is left to read in front of the first end mark only if there is none in the source. -/
theorem exists_live_ofText_append (source more : List Char) :
    ∃ rest, (ofText (source ++ more)).live = (ofText source).live ++ rest
      ∧ (rest = [] ∨ (ofText source).live = source) := by
  show ∃ rest, (source ++ more).takeWhile (· != endMark) = source.takeWhile (· != endMark) ++ rest
    ∧ (rest = [] ∨ source.takeWhile (· != endMark) = source)
  rw [List.takeWhile_append]
  split
  · next hall =>
    have hwhole := (List.takeWhile_prefix (· != endMark)).eq_of_length hall
    rw [hwhole]
    exact ⟨_, rfl, .inr rfl⟩
  · exact ⟨[], (List.append_nil _).symm, .inl rfl⟩

/-- What the token of a reading leaves behind is what is left of the source where the reading
ends. -/
theorem leavesBehind_scan_iff {source : List Char} {found : Found} {front behind : List Char}
    (hin : found.In (ofText source).live front behind) (filename : String) (count : Nat) :
    (found.scan filename (ofText source)).token.LeavesBehind source count
      ↔ found.start + found.reading.text.length + count ≤ source.length := by
  have htext : (found.scan filename (ofText source)).token.text.toList = found.reading.text := by
    have hscan := Found.text_token_scan filename (ofText source) found.start
      (found.reading.text ++ behind)
    rwa [hin.read_eq] at hscan
  have hstands : (found.scan filename (ofText source)).token.StandsBehind front :=
    standsBehind_of_in (.ofText source) hin filename
  have hsource : source = front ++ (found.reading.text ++ (behind ++ (ofText source).beyond)) := by
    have hwhole : (ofText source).live ++ (ofText source).beyond = source := source_ofText source
    rw [hin.text_eq, List.append_assoc, List.append_assoc] at hwhole
    exact hwhole.symm
  have hlength := congrArg List.length hsource
  rw [List.length_append, List.length_append] at hlength
  constructor
  · rintro ⟨front', back, hsource', hstands', hcount⟩
    rw [htext] at hsource'
    obtain rfl : front = front' := hstands.eq_of_isPrefix hstands' ⟨_, hsource.symm⟩
      ⟨_, hsource'.symm⟩
    have hlength' := congrArg List.length hsource'
    rw [List.length_append, List.length_append] at hlength'
    rw [hin.start_eq]
    omega
  · intro hcount
    rw [hin.start_eq] at hcount
    refine ⟨front, behind ++ (ofText source).beyond, ?_, hstands, ?_⟩
    · rw [htext]
      exact hsource
    · omega

end Cursor

/-- What has been found in a text is at the same place of a longer one. -/
theorem Lexeme.Found.token_scan_ofText_append {source more rest : List Char} {found : Found}
    (hlive : (Cursor.ofText (source ++ more)).live = (Cursor.ofText source).live ++ rest)
    (hstart : found.start ≤ (Cursor.ofText source).live.length) (filename : String) :
    (found.scan filename (Cursor.ofText (source ++ more))).token
      = (found.scan filename (Cursor.ofText source)).token := by
  have hlong := Cursor.WellFormed.ofText (source ++ more)
  have hshort := Cursor.WellFormed.ofText source
  have htake : (Cursor.ofText (source ++ more)).live.take found.start
      = (Cursor.ofText source).live.take found.start := by
    rw [hlive, List.take_append_of_le_length hstart]
  rw [scan, scan, Scan.token_ofReading, Scan.token_ofReading, Scan.tokenAt, Scan.tokenAt,
    hlong.line_advanceBy, hlong.column_advanceBy, hshort.line_advanceBy, hshort.column_advanceBy,
    htake]
  rfl

namespace Lexer

/-- The tokens of a run over a source that leave three characters of the source behind. -/
def Run.settled (run : Run) (source : List Char) : List Token :=
  run.tokens.filter fun token => token.kind ≠ .endOfInput ∧ token.LeavesBehind source 3

/-- The settled tokens of a run are what is settled in the outline. -/
theorem settled_run (filename : String) (keepComments : Bool) (source : List Char) :
    (run filename keepComments source).settled source =
      ((outline (always keepComments) (Cursor.ofText source).live).filter
        (fun found => found.Settled source.length)).map
          fun found => (found.scan filename (Cursor.ofText source)).token := by
  rw [Run.settled, (run_yields filename keepComments source).tokens, Cursor.scans, List.map_map,
    List.filter_map]
  congr 1
  refine List.filter_congr ?_
  intro found hfound
  obtain ⟨front, behind, hin⟩ := exists_in_of_mem_outline hfound
  rw [Function.comp_apply, Function.comp_apply, decide_eq_decide, Found.kind_scan,
    Cursor.leavesBehind_scan_iff hin, Found.Settled]

/-- What is settled comes first, whatever is put behind the source. -/
theorem settled_isPrefix_tokens (filename : String) (keepComments : Bool)
    (source more : List Char) :
    (run filename keepComments source).settled source
      <+: (run filename keepComments (source ++ more)).tokens := by
  obtain ⟨rest, hlive, hrest⟩ := Cursor.exists_live_ofText_append source more
  have hsize : rest = [] ∨ source.length ≤ (Cursor.ofText source).live.length := by
    refine hrest.imp_right ?_
    intro hwhole
    rw [hwhole]
  have hfound := filter_settled_isPrefix_outline keepComments (Cursor.ofText source).live rest
    source.length hsize
  have hplaces : ∀ found ∈ (outline (always keepComments) (Cursor.ofText source).live).filter
      (fun found => found.Settled source.length),
      (found.scan filename (Cursor.ofText source)).token
        = (found.scan filename (Cursor.ofText (source ++ more))).token := by
    intro found hmem
    have hstart : found.start ≤ (Cursor.ofText source).live.length :=
      start_le_of_mem_outline (List.mem_of_mem_filter hmem)
    exact (Found.token_scan_ofText_append hlive hstart filename).symm
  rw [settled_run, List.map_congr_left hplaces, (run_yields filename keepComments _).tokens,
    Cursor.scans, hlive, List.map_map]
  exact hfound.map _

/-- **Tokens are settled before the text is complete.**  The tokens of a source that leave three
characters behind are the first ones of its run, and whatever is put behind the source, its run
begins with the same tokens at the same places. -/
theorem tokenize_settled (filename source more : String) (keepComments : Bool) :
    ∃ short long, tokenize (.text source) { filename, keepComments } none = .ok short
      ∧ tokenize (.text (source ++ more)) { filename, keepComments } none = .ok long
      ∧ short.failure = none ∧ long.failure = none
      ∧ short.tokens.take (short.settled source.toList).length = short.settled source.toList
      ∧ long.tokens.take (short.settled source.toList).length = short.settled source.toList := by
  have hshort := settled_isPrefix_tokens filename keepComments source.toList []
  have hlong := settled_isPrefix_tokens filename keepComments source.toList more.toList
  rw [List.append_nil] at hshort
  rw [← String.toList_append] at hlong
  exact ⟨_, _, tokenize_eq_ok_run filename keepComments source,
    tokenize_eq_ok_run filename keepComments (source ++ more),
    (run_yields filename keepComments _).failure, (run_yields filename keepComments _).failure,
    (List.prefix_iff_eq_take.1 hshort).symm, (List.prefix_iff_eq_take.1 hlong).symm⟩

/-- Two characters are not enough. -/
example :
    (run "<input>" false "1e+".toList).tokens.map Token.content
        = [(.literal .integer, some "1"), (.identifier, some "e"), (.symbol .plus, none),
            (.endOfInput, none)]
      ∧ (run "<input>" false "1e+5".toList).tokens.map Token.content
        = [(.literal .floating, some "1e+5"), (.endOfInput, none)] := by
  decide +kernel

end Lexer
end SourceLexer
