import SourceLexer.Proofs.Run

/-!
# Tokens and gaps tile the text

A run loses nothing.  The text up to its first end mark is a sequence of tiles, each of them a gap
and the text of a token behind it, and a last gap in front of the end of the input.  The tokens of
the tiles are the tokens of the run in their order.

## Positions

A tile knows what is in front of it, so the place of its token can be checked: it is the one that
counting the lines and columns of all that text comes to.  Nothing about cursors is left in the
statement.

## Under a schedule

The tiling is worked out for a run whose wish for comments may change from call to call
(`exists_tiling_scans`).  Its gaps are then gaps for whatever the schedule never forbids to pass
over.
-/

namespace SourceLexer

open Lexeme

/-- A gap and the token behind it. -/
structure Tile where
  gap : List Char
  token : Token
  deriving DecidableEq, Repr

/-- The part of the text that a tile takes up. -/
def Tile.text (tile : Tile) : List Char :=
  tile.gap ++ tile.token.text.toList

/-- The token stands where the given text ends. -/
def Token.StandsBehind (token : Token) (before : List Char) : Prop :=
  token.line = lineAfter before ∧ token.column = columnAfter before

/-- A text that stands behind another one, as tiles, a last gap and the end of the input. -/
structure Tiling (keepComments : Bool) (before text : List Char) (tiles : List Tile)
    (last : List Char) (final : Token) : Prop where
  text_eq : text = tiles.flatMap Tile.text ++ last
  tile : ∀ front tile back, tiles = front ++ tile :: back →
    tile.token.kind ≠ .endOfInput ∧ tile.token.text ≠ ""
      ∧ Gap keepComments tile.gap
          (tile.token.text.toList ++ (back.flatMap Tile.text ++ last))
      ∧ tile.token.StandsBehind (before ++ (front.flatMap Tile.text ++ tile.gap))
  last_gap : Gap keepComments last []
  final_kind : final.kind = .endOfInput
  final_behind : final.StandsBehind (before ++ text)

/-! ## The token of one scan -/

/-- A scan puts its token where the text in front of it ends. -/
theorem Lexeme.Found.standsBehind_scan {cursor : Cursor} (h : cursor.WellFormed)
    {front behind : List Char} (hlive : cursor.live = front ++ behind) (filename : String)
    (reading : Reading) :
    (Found.scan filename cursor ⟨front.length, reading⟩).token.StandsBehind
      (cursor.before.reverse ++ front) := by
  have hformed := h.advanceBy front.length
  rw [Found.scan, Scan.token_ofReading, ← Cursor.reverse_before_of_live hlive]
  exact ⟨congrArg Int.ofNat hformed.line_eq, congrArg Int.ofNat hformed.column_eq⟩

/-! ## Putting tiles together -/

namespace Tiling

variable {keepComments : Bool} {before gap behind last : List Char} {token final : Token}
  {tiles : List Tile}

/-- A last gap alone. -/
theorem of_gap (hgap : Gap keepComments gap []) (hkind : final.kind = .endOfInput)
    (hfinal : final.StandsBehind (before ++ gap)) :
    Tiling keepComments before gap [] gap final where
  text_eq := rfl
  tile front tile back h := by simp at h
  last_gap := hgap
  final_kind := hkind
  final_behind := hfinal

/-- One more tile in front. -/
theorem cons (hkind : token.kind ≠ .endOfInput) (htext : token.text ≠ "")
    (hgap : Gap keepComments gap (token.text.toList ++ behind))
    (htoken : token.StandsBehind (before ++ gap))
    (h : Tiling keepComments (before ++ (gap ++ token.text.toList)) behind tiles last final) :
    Tiling keepComments before (gap ++ (token.text.toList ++ behind)) (⟨gap, token⟩ :: tiles)
      last final where
  text_eq := by
    rw [List.flatMap_cons, Tile.text, List.append_assoc, List.append_assoc, ← h.text_eq]
  tile := by
    intro front tile back hsplit
    cases front with
    | nil =>
      obtain ⟨rfl, rfl⟩ := List.cons.inj hsplit
      refine ⟨hkind, htext, ?_, htoken⟩
      rw [← h.text_eq]
      exact hgap
    | cons first front =>
      obtain ⟨rfl, hrest⟩ := List.cons.inj hsplit
      obtain ⟨hkind', htext', hgap', htoken'⟩ := h.tile front tile back hrest
      refine ⟨hkind', htext', hgap', ?_⟩
      rw [List.flatMap_cons, Tile.text, List.append_assoc, ← List.append_assoc before]
      exact htoken'
  last_gap := h.last_gap
  final_kind := h.final_kind
  final_behind := by
    have hfinal := h.final_behind
    rwa [List.append_assoc, List.append_assoc] at hfinal

end Tiling

/-! ## The tiling of a run -/

/-- The scans from a cursor on tile what is left to read. -/
theorem Cursor.exists_tiling_scans (filename : String) {keepComments : Bool} (keep : Nat → Bool)
    (hkeep : ∀ call, keepComments = true → keep call = true) {cursor : Cursor}
    (hformed : cursor.WellFormed) :
    ∃ tiles last final,
      (cursor.scans filename keep).map Scan.token = tiles.map Tile.token ++ [final]
        ∧ Tiling keepComments cursor.before.reverse cursor.live tiles last final := by
  generalize hlive : cursor.live = text
  induction keep, text using outline_induction generalizing cursor with
  | gap keep gap hgap =>
    rw [scans_of_gap hgap hlive]
    refine ⟨[], gap, _, rfl, .of_gap (hgap.of_le (hkeep 0)) rfl ?_⟩
    exact Found.standsBehind_scan hformed (by rw [hlive, List.append_nil]) filename _
  | piece keep gap reading behind hpiece ih =>
    have hnext := live_advanceBy_of_piece hlive
    obtain ⟨tiles, last, final, htokens, htiling⟩ :=
      ih (fun call => hkeep (call + 1)) (hformed.advanceBy _) hnext
    have htext : (Found.scan filename cursor ⟨gap.length, reading⟩).token.text.toList
        = reading.text := by
      have hscan := Found.text_token_scan filename cursor gap.length (reading.text ++ behind)
      rwa [hpiece.read_eq] at hscan
    rw [reverse_before_of_piece hlive] at htiling
    rw [scans_of_piece hpiece hlive, List.map_cons, htokens, ← htext]
    refine ⟨⟨gap, _⟩ :: tiles, last, final, rfl, .cons ?_ ?_ ?_ ?_ ?_⟩
    · rw [Found.kind_scan]
      exact hpiece.kind_ne_endOfInput
    · intro hempty
      rw [hempty] at htext
      exact hpiece.text_ne_nil htext.symm
    · rw [htext]
      exact hpiece.isGap.of_le (hkeep 0)
    · exact Found.standsBehind_scan hformed hlive filename reading
    · rw [htext]
      exact htiling

/-- **Tokens and gaps tile the text.**  The tokens of a source, each with a gap in front of it, and
a last gap make up the text to its first end mark, and every token stands where the text in front
of it ends. -/
theorem Lexer.tokenize_tiles (filename source : String) (keepComments : Bool) :
    ∃ run, tokenize (.text source) { filename, keepComments } none = .ok run
      ∧ run.failure = none
      ∧ ∃ tiles last final, run.tokens = tiles.map Tile.token ++ [final]
        ∧ Tiling keepComments [] (source.toList.takeWhile (· != endMark)) tiles last final := by
  have hyields := run_yields filename keepComments source.toList
  obtain ⟨tiles, last, final, htokens, htiling⟩ :=
    Cursor.exists_tiling_scans filename (always keepComments) (fun _ h => h)
      (.ofText source.toList)
  refine ⟨_, tokenize_eq_ok_run filename keepComments source, hyields.failure, ?_⟩
  exact ⟨tiles, last, final, hyields.tokens.trans htokens, htiling⟩

end SourceLexer
