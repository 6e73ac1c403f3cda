import SourceLexer.Proofs.Diagnosis
import SourceLexer.Proofs.Skipping
import SourceLexer.Proofs.Token.Dump

/-!
# The columns of a dump line

Who reads a dump line by its blanks takes it apart into fields.  The first two of them are the
position and the name of the kind exactly if the position is shorter than its column; a position
that fills the column runs together with the name.  Behind the name there is always room for a
blank, so the text is always apart.

## How far this goes

A position fills its column if its line and its column have seven digits between them.  Both of
them together are at most two more than the number of characters in front of the token
(`lineAfter_add_columnAfter_le`), so this cannot happen within the first 1098 characters
of a source.  It does happen right behind them, in column 100 of line 1000.
-/

namespace SourceLexer

open Lexeme

/-! ## How far positions go -/

/-- Every character adds at most one to the line and the column. -/
theorem lineAfter_add_columnAfter_le (front : List Char) :
    lineAfter front + columnAfter front ≤ front.length + 2 := by
  induction front using List.reverseRecOn with
  | nil => exact Nat.le_refl _
  | append_singleton front char ih =>
    have hcolumn : 1 ≤ columnAfter front := Nat.le_add_left 1 _
    rw [lineAfter_append_singleton, columnAfter_append_singleton, List.length_append,
      List.length_singleton]
    split <;> omega

namespace Token

/-- A position is as long as its two numerals and the colon. -/
theorem StandsBehind.length_position {token : Token} {front : List Char}
    (h : token.StandsBehind front) :
    token.position.length = (Nat.toDigits 10 (lineAfter front)).length + 1
      + (Nat.toDigits 10 (columnAfter front)).length := by
  have hline : (toString token.line).toList = Nat.toDigits 10 (lineAfter front) := by
    rw [h.1]
    exact Nat.toList_repr
  have hcolumn : (toString token.column).toList = Nat.toDigits 10 (columnAfter front) := by
    rw [h.2]
    exact Nat.toList_repr
  rw [position, hline, hcolumn, List.length_append, List.length_cons]
  omega

/-- Near the front of a source positions do not fill their column. -/
theorem StandsBehind.length_position_lt {token : Token} {front : List Char}
    (h : token.StandsBehind front) (hlength : front.length < 1098) :
    token.position.length < positionWidth := by
  have hdigits : ∀ n count, 0 < count → ((Nat.toDigits 10 n).length ≤ count ↔ n < 10 ^ count) :=
    fun n count => Nat.length_toDigits_le_iff (by decide)
  have hsum := lineAfter_add_columnAfter_le front
  have hline : 1 ≤ lineAfter front := Nat.le_add_left 1 _
  have hcolumn : 1 ≤ columnAfter front := Nat.le_add_left 1 _
  have hposition := h.length_position
  generalize lineAfter front = line at hsum hline hposition
  generalize columnAfter front = column at hsum hcolumn hposition
  have hwidth : positionWidth = 8 := rfl
  -- four digits of the one number leave no more than two to the other
  have hline2 := hdigits line 2 (by decide)
  have hline3 := hdigits line 3 (by decide)
  have hline4 := hdigits line 4 (by decide)
  have hcolumn2 := hdigits column 2 (by decide)
  have hcolumn3 := hdigits column 3 (by decide)
  have hcolumn4 := hdigits column 4 (by decide)
  omega

/-! ## Fields -/

/-- The fields of a line, parted by any number of blanks. -/
def fields (line : List Char) : List (List Char) :=
  (line.splitOn ' ').filter (· ≠ [])

theorem fields_append_blank (front line : List Char) :
    fields (front ++ ' ' :: line) = fields front ++ fields line := by
  rw [fields, List.splitOn_append_cons_self, List.filter_append]
  rfl

theorem fields_of_notMem {field : List Char} (hne : field ≠ []) (h : ' ' ∉ field) :
    fields field = [field] := by
  rw [fields, List.splitOn_eq_singleton h]
  exact List.filter_cons_of_pos (decide_eq_true hne)

theorem fields_replicate_append (count : Nat) (line : List Char) :
    fields (List.replicate count ' ' ++ line) = fields line := by
  induction count with
  | zero => rfl
  | succ count ih =>
    have hblank := fields_append_blank [] (List.replicate count ' ' ++ line)
    rw [List.replicate_succ, List.cons_append]
    exact hblank.trans ih

/-- The first field goes up to the first blank. -/
theorem exists_fields_append {field behind : List Char} (hne : field ≠ []) (h : ' ' ∉ field)
    (hbehind : ∀ char ∈ behind.head?, char = ' ') :
    ∃ rest, fields (field ++ behind) = field :: rest := by
  cases behind with
  | nil => exact ⟨[], by rw [List.append_nil, fields_of_notMem hne h]⟩
  | cons char behind =>
    obtain rfl : char = ' ' := hbehind char rfl
    exact ⟨fields behind, by rw [fields_append_blank, fields_of_notMem hne h]; rfl⟩

theorem blank_notMem_position (token : Token) : ' ' ∉ token.position := fun h =>
  (isPositionChar_of_mem_position h).2.ne_blank rfl

theorem position_ne_nil (token : Token) : token.position ≠ [] := by
  rw [position]
  exact List.append_ne_nil_of_right_ne_nil _ (List.cons_ne_nil _ _)

/-- A position that does not fill its column is a field, and so is the name behind it. -/
theorem exists_fields_of_narrow {token : Token} (h : token.position.length < positionWidth) :
    ∃ rest, fields token.dumpChars = token.position :: token.kind.name.toList :: rest := by
  obtain ⟨count, hcount⟩ : ∃ count, positionWidth - token.position.length = count + 1 :=
    ⟨positionWidth - token.position.length - 1, by omega⟩
  obtain ⟨rest, hrest⟩ := exists_fields_append token.kind.fits_name.ne_nil
    token.kind.fits_name.blank_notMem (head?_behindName token)
  refine ⟨rest, ?_⟩
  rw [dumpChars_eq, padded, hcount, List.replicate_succ, List.append_assoc, List.cons_append,
    fields_append_blank, fields_replicate_append, hrest,
    fields_of_notMem (position_ne_nil token) (blank_notMem_position token)]
  rfl

/-- A position that fills its column is one field with the name. -/
theorem exists_fields_of_wide {token : Token} (h : positionWidth ≤ token.position.length) :
    ∃ rest, fields token.dumpChars = (token.position ++ token.kind.name.toList) :: rest := by
  have hpadded : padded positionWidth token.position = token.position := by
    rw [padded, Nat.sub_eq_zero_of_le h]
    exact List.append_nil _
  have hne : token.position ++ token.kind.name.toList ≠ [] :=
    List.append_ne_nil_of_left_ne_nil (position_ne_nil token) _
  have hblank : ' ' ∉ token.position ++ token.kind.name.toList := by
    rw [List.mem_append, not_or]
    exact ⟨blank_notMem_position token, token.kind.fits_name.blank_notMem⟩
  rw [dumpChars_eq, hpadded, ← List.append_assoc]
  exact exists_fields_append hne hblank (head?_behindName token)

/-- Between the name and a text that is more than blanks there is a blank. -/
theorem exists_dumpChars_eq {token : Token} (h : token.text.toList.rdropWhile (· = ' ') ≠ []) :
    ∃ count, token.dumpChars
      = padded positionWidth token.position ++ token.kind.name.toList
        ++ List.replicate (count + 1) ' '
        ++ Text.escape (token.text.toList.rdropWhile (· = ' ')) := by
  have hlength := token.kind.fits_name.length_lt
  refine ⟨nameWidth - token.kind.name.toList.length - 1, ?_⟩
  have hcount : nameWidth - token.kind.name.toList.length - 1 + 1
      = nameWidth - token.kind.name.toList.length := by omega
  have hname : token.behindName = _ := (behindName_eq token).trans (if_neg h)
  rw [dumpChars_eq, hname, hcount]
  simp only [List.append_assoc]
  rfl

/-- So it is not a field of its own. -/
theorem fields_ne_of_wide {token : Token} (h : positionWidth ≤ token.position.length)
    (rest : List (List Char)) : fields token.dumpChars ≠ token.position :: rest := by
  intro hrest
  obtain ⟨others, hothers⟩ := exists_fields_of_wide h
  rw [hothers] at hrest
  have hfirst := (List.cons.inj hrest).1
  exact token.kind.fits_name.ne_nil (List.append_right_eq_self.1 hfirst)

/-- The first two fields are the position and the name only if the position does not fill its
column. -/
theorem separate_iff (token : Token) : token.position.length < positionWidth ↔
    ∃ rest, fields token.dumpChars = token.position :: token.kind.name.toList :: rest := by
  refine ⟨exists_fields_of_narrow, ?_⟩
  rintro ⟨rest, hrest⟩
  by_contra hwide
  exact fields_ne_of_wide (Nat.le_of_not_lt hwide) _ hrest

end Token

/-! ## The columns of a run -/

/-- The text of a token stands where the token has been found, and it is more than blanks. -/
theorem Lexeme.Found.In.text_token {found : Found} {text front behind : List Char}
    (hin : found.In text front behind) (filename : String) (cursor : Cursor) :
    (found.scan filename cursor).token.text.toList = found.reading.text
      ∧ (found.reading.text ≠ [] → found.reading.text.rdropWhile (· = ' ') ≠ []) := by
  constructor
  · have hscan := Found.text_token_scan filename cursor found.start (found.reading.text ++ behind)
    rwa [hin.read_eq] at hscan
  · intro hne hblanks
    obtain ⟨char, rest, htext⟩ := List.exists_cons_of_ne_nil hne
    have hchar := hin.not_blank char (by rw [htext]; rfl)
    have hmem : char ∈ found.reading.text := by
      rw [htext]
      exact List.mem_cons_self
    rw [of_decide_eq_true (List.rdropWhile_eq_nil_iff.1 hblanks char hmem)] at hchar
    exact absurd hchar (by decide)

namespace Lexer

open Token

/-- **The columns of a dump stay separated up to positions of seven characters.**  Of the tokens
that are taken from a source, exactly those with a position that does not fill its column have the
position and the name of the kind as the first two fields of their dump line; in all the others
these two are one field.  A text is always parted from the name by a blank.  Only a token with at
least 1098 characters in front of it can have a position that fills its column. -/
theorem tokenize_columns (filename source : String) (keepComments : Bool) :
    ∃ run, tokenize (.text source) { filename, keepComments } none = .ok run
      ∧ run.failure = none
      ∧ ∀ token ∈ run.tokens,
        (token.position.length < positionWidth ↔
          ∃ rest, fields token.dumpChars = token.position :: token.kind.name.toList :: rest)
        ∧ (positionWidth ≤ token.position.length →
          ∃ rest, fields token.dumpChars = (token.position ++ token.kind.name.toList) :: rest)
        ∧ (token.text ≠ "" → ∃ count, token.dumpChars
          = padded positionWidth token.position ++ token.kind.name.toList
            ++ List.replicate (count + 1) ' '
            ++ Text.escape (token.text.toList.rdropWhile (· = ' ')))
        ∧ ∃ front, front ++ token.text.toList <+: source.toList ∧ token.StandsBehind front
          ∧ (front.length < 1098 → token.position.length < positionWidth) := by
  have hyields := run_yields filename keepComments source.toList
  have hformed := Cursor.WellFormed.ofText source.toList
  refine ⟨_, tokenize_eq_ok_run filename keepComments source, hyields.failure, ?_⟩
  intro token htoken
  rw [hyields.tokens] at htoken
  obtain ⟨scan, hscan, rfl⟩ := List.mem_map.1 htoken
  obtain ⟨found, hfound, rfl⟩ := List.mem_map.1 hscan
  obtain ⟨front, behind, hin⟩ := exists_in_of_mem_outline hfound
  obtain ⟨htext, hmore⟩ := hin.text_token filename (Cursor.ofText source.toList)
  have hstands : (found.scan filename (Cursor.ofText source.toList)).token.StandsBehind front :=
    Cursor.standsBehind_of_in hformed hin filename
  refine ⟨separate_iff _, exists_fields_of_wide, ?_, front, ?_, hstands,
    hstands.length_position_lt⟩
  · intro hne
    refine exists_dumpChars_eq ?_
    rw [htext]
    refine hmore ?_
    rw [← htext]
    exact fun hnil => hne (String.toList_inj.1 hnil)
  · have hsource : (Cursor.ofText source.toList).live ++ (Cursor.ofText source.toList).beyond
        = source.toList := Cursor.source_ofText source.toList
    rw [htext, ← hsource, hin.text_eq]
    exact ⟨behind ++ (Cursor.ofText source.toList).beyond, by simp only [List.append_assoc]⟩

/-- Right behind the first 1098 characters the columns can run together. -/
theorem tokenize_columns_collide :
    ∃ run, tokenize (.text (String.ofList
          (List.replicate 999 '\n' ++ List.replicate 99 ' ' ++ ['x']))) {} none = .ok run
      ∧ ∃ token ∈ run.tokens, token.position = "1000:100".toList
        ∧ token.dumpLine = "1000:100IDENTIFIER      x"
        ∧ ¬ ∃ rest, fields token.dumpChars = token.position :: rest := by
  have hblank : ∀ char ∈ List.replicate 999 '\n' ++ List.replicate 99 ' ',
      isBlank char = true := by
    intro char hchar
    rw [List.mem_append, List.mem_replicate, List.mem_replicate] at hchar
    rcases hchar with ⟨-, rfl⟩ | ⟨-, rfl⟩ <;> rfl
  have hline : lineAfter (List.replicate 999 '\n' ++ List.replicate 99 ' ') = 1000 := by
    decide +kernel
  have hcolumn : columnAfter (List.replicate 999 '\n' ++ List.replicate 99 ' ') = 100 := by
    decide +kernel
  generalize List.replicate 999 '\n' ++ List.replicate 99 ' ' = gap at hblank hline hcolumn
  have hpiece : Piece false gap (.verbatim .identifier ['x']) [] :=
    ⟨(gap_true_iff.2 hblank).of_keepComments, blanks_eq_nil_iff.2 ⟨rfl, by decide⟩, by decide,
      by decide⟩
  have hmark : endMark ∉ gap ++ ['x'] := by
    intro hmem
    rw [List.mem_append, List.mem_singleton] at hmem
    rcases hmem with hmem | hmem
    · exact absurd (hblank _ hmem) (by decide)
    · exact absurd hmem (by decide)
  have hlive : (Cursor.ofText (gap ++ ['x'])).live
      = gap ++ ((Reading.verbatim .identifier ['x']).text ++ []) :=
    Cursor.live_ofText_of_notMem hmark
  have hrun := tokenize_eq_ok_run "<input>" false (String.ofList (gap ++ ['x']))
  rw [String.toList_ofList] at hrun
  have hyields := run_yields "<input>" false (gap ++ ['x'])
  obtain ⟨hline', hcolumn'⟩ := Found.standsBehind_scan (.ofText (gap ++ ['x'])) hlive "<input>"
    (.verbatim .identifier ['x'])
  have hfront : (Cursor.ofText (gap ++ ['x'])).before.reverse ++ gap = gap := rfl
  rw [hfront, hline] at hline'
  rw [hfront, hcolumn] at hcolumn'
  have htoken : (Found.scan "<input>" (Cursor.ofText (gap ++ ['x']))
      ⟨gap.length, .verbatim .identifier ['x']⟩).token
        = ⟨.identifier, some "x", 1000, 100, "<input>"⟩ := by
    rw [Found.scan, Scan.token_ofReading, Scan.tokenAt, Token.mk.injEq]
    exact ⟨rfl, rfl, hline', hcolumn', rfl⟩
  refine ⟨_, hrun, ⟨.identifier, some "x", 1000, 100, "<input>"⟩, ?_, by decide +kernel,
    by decide +kernel, ?_⟩
  · rw [hyields.tokens, Cursor.scans_of_piece hpiece hlive, List.map_cons, htoken]
    exact List.mem_cons_self
  · rintro ⟨rest, hrest⟩
    exact fields_ne_of_wide (by decide +kernel) rest hrest

end Lexer
end SourceLexer
