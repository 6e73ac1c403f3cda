import SourceLexer.Proofs.Position
import SourceLexer.Proofs.Text.Plain
import SourceLexer.Token.Dump
import Mathlib.Data.List.DropRight

/-!
# Dump lines can be read back

`Token.ofDump?` reads a dump line from the left.  No character of a position can stand in the name
of a kind, and no character of a name can stand behind it, so each field ends where the kind of
characters changes; how wide the columns are matters only for the blanks between them.  What is
left is an escaped text.

## Blanks at the end

A dump line loses the blanks at its end.  They are those of the text, and those behind the name if
the text has nothing else.  No name ends in a blank, and only a blank is escaped as one, so neither
the name nor an escape is cut (`dumpChars_eq`, `trimmedRight_escape`).  What is read back is all
of a token but its source and the blanks at the end of its text (`ofDump?_dumpChars`).
-/

namespace SourceLexer
namespace Token

/-! ## Blanks at the end of a line -/

section

variable {front line : List Char}

theorem trimmedRight_concat (line : List Char) (char : Char) :
    trimmedRight (line ++ [char]) = if char = ' ' then trimmedRight line else line ++ [char] := by
  by_cases h : char = ' '
  · rw [if_pos h]
    exact List.rdropWhile_concat_pos _ _ _ (decide_eq_true h)
  · rw [if_neg h]
    exact List.rdropWhile_concat_neg _ _ _ (by simpa using h)

/-- Nothing is taken off in front of a line that has nothing to take off. -/
theorem trimmedRight_append (h : trimmedRight front = front) (line : List Char) :
    trimmedRight (front ++ line) = front ++ trimmedRight line := by
  induction line using List.reverseRecOn with
  | nil =>
    rw [List.append_nil, h]
    exact (List.append_nil front).symm
  | append_singleton line char ih =>
    rw [← List.append_assoc, trimmedRight_concat, trimmedRight_concat, ih, List.append_assoc]
    split <;> rfl

/-- A line without blanks has nothing to take off, and neither has one that ends in it. -/
theorem trimmedRight_append_of_notMem (front : List Char) (hne : line ≠ []) (h : ' ' ∉ line) :
    trimmedRight (front ++ line) = front ++ line := by
  rcases List.eq_nil_or_concat' line with rfl | ⟨init, last, rfl⟩
  · exact absurd rfl hne
  · have hlast : last ≠ ' ' := by
      rintro rfl
      exact h (by simp)
    rw [← List.append_assoc, trimmedRight_concat, if_neg hlast]

theorem trimmedRight_replicate (count : Nat) : trimmedRight (List.replicate count ' ') = [] := by
  refine List.rdropWhile_eq_nil_iff.2 ?_
  intro char hchar
  exact decide_eq_true (List.eq_of_mem_replicate hchar)

/-- Blanks in front of a line stay where they are, unless there is nothing else. -/
theorem trimmedRight_replicate_append (count : Nat) (line : List Char) :
    trimmedRight (List.replicate count ' ' ++ line) =
      if trimmedRight line = [] then [] else List.replicate count ' ' ++ trimmedRight line := by
  induction line using List.reverseRecOn with
  | nil =>
    rw [List.append_nil, trimmedRight_replicate]
    rfl
  | append_singleton line char ih =>
    rw [← List.append_assoc, trimmedRight_concat, trimmedRight_concat]
    by_cases hblank : char = ' '
    · rw [if_pos hblank, if_pos hblank, ih]
    · have hne : line ++ [char] ≠ [] := by simp
      rw [if_neg hblank, if_neg hblank, if_neg hne, List.append_assoc]

/-- Taking the blanks off an escaped text takes them off the text. -/
theorem trimmedRight_escape (text : List Char) :
    trimmedRight (Text.escape text) = Text.escape (trimmedRight text) := by
  induction text using List.reverseRecOn with
  | nil => rfl
  | append_singleton text char ih =>
    have happend : Text.escape (text ++ [char]) = Text.escape text ++ Text.escapedChar char := by
      rw [Text.escape, List.flatMap_append, List.flatMap_singleton]
      rfl
    rw [happend, trimmedRight_concat]
    split
    · next hblank =>
      rw [hblank, Text.escapedChar_blank, trimmedRight_concat, if_pos rfl, ih]
    · next hblank =>
      rw [happend]
      refine trimmedRight_append_of_notMem _ (Text.escapedChar_ne_nil char) ?_
      intro hmem
      exact (Text.isGraphic_of_mem_escapedChar hblank hmem).ne_blank rfl

end

/-! ## Names of kinds -/

/-- A character of a position. -/
def isPositionChar (char : Char) : Bool :=
  char.isDigit || char = '-' || char = ':'

/-- A character of the name of a kind. -/
def isNameChar (char : Char) : Bool :=
  char.isUpper || char = '_'

namespace Kind

/-- What the fields of a dump line need of a name: it is not empty, there is room for a blank
behind it in its column, and none of its characters stands in a position. -/
structure Fits (name : List Char) : Prop where
  ne_nil : name ≠ []
  length_lt : name.length < nameWidth
  isNameChar : ∀ char ∈ name, isNameChar char = true
  isPositionChar : ∀ char ∈ name, isPositionChar char = false
  isGraphic : ∀ char ∈ name, Text.IsGraphic char

theorem Fits.blank_notMem {name : List Char} (h : Fits name) : ' ' ∉ name := fun hmem =>
  (h.isGraphic ' ' hmem).ne_blank rfl

theorem fits_name (kind : Kind) : Fits kind.name.toList := by
  have hall : (all.all fun kind => !kind.name.toList.isEmpty
      && decide (kind.name.toList.length < nameWidth)
      && kind.name.toList.all fun char => Token.isNameChar char && !Token.isPositionChar char
        && decide (Text.IsGraphic char)) = true := by
    decide +kernel
  have hkind := List.all_eq_true.1 hall kind (mem_all kind)
  simp only [Bool.and_eq_true, List.all_eq_true, Bool.not_eq_true', decide_eq_true_eq,
    List.isEmpty_eq_false_iff] at hkind
  obtain ⟨⟨hne, hlength⟩, hchars⟩ := hkind
  exact ⟨hne, hlength, fun char h => (hchars char h).1.1, fun char h => (hchars char h).1.2,
    fun char h => (hchars char h).2⟩

end Kind

/-! ## Fields -/

theorem isPositionChar_of_mem_position {token : Token} {char : Char}
    (h : char ∈ token.position) : isPositionChar char = true ∧ Text.IsGraphic char := by
  have hnumeral : ∀ n : Int, char ∈ (toString n).toList →
      isPositionChar char = true ∧ Text.IsGraphic char := by
    intro n hchar
    refine ⟨?_, Text.isGraphic_of_mem_toString_int hchar⟩
    rcases Text.mem_toString_int hchar with hdigit | rfl
    · simp [isPositionChar, hdigit]
    · rfl
  rw [position, List.mem_append, List.mem_cons] at h
  rcases h with hline | rfl | hcolumn
  · exact hnumeral _ hline
  · exact ⟨by decide, by decide⟩
  · exact hnumeral _ hcolumn

/-- What stands behind the name of the kind in a dump line. -/
def behindName (token : Token) : List Char :=
  trimmedRight (List.replicate (nameWidth - token.kind.name.toList.length) ' '
    ++ Text.escape token.text.toList)

/-- The fields of a dump line.  Blanks are only taken off what stands behind the name. -/
theorem dumpChars_eq (token : Token) :
    token.dumpChars
      = padded positionWidth token.position ++ (token.kind.name.toList ++ token.behindName) := by
  have hname := token.kind.fits_name
  have hfront := trimmedRight_append_of_notMem (padded positionWidth token.position) hname.ne_nil
    hname.blank_notMem
  calc token.dumpChars
      = trimmedRight (padded positionWidth token.position ++ token.kind.name.toList
          ++ (List.replicate (nameWidth - token.kind.name.toList.length) ' '
            ++ Text.escape token.text.toList)) := by
        rw [dumpChars, padded.eq_1 nameWidth]
        simp only [List.append_assoc]
    _ = padded positionWidth token.position ++ token.kind.name.toList ++ token.behindName :=
        trimmedRight_append hfront _
    _ = padded positionWidth token.position ++ (token.kind.name.toList ++ token.behindName) :=
        List.append_assoc _ _ _

/-- A text that is more than blanks stands in its column, without the blanks at its end. -/
theorem behindName_eq (token : Token) :
    token.behindName =
      if trimmedRight token.text.toList = [] then []
      else List.replicate (nameWidth - token.kind.name.toList.length) ' '
        ++ Text.escape (trimmedRight token.text.toList) := by
  rw [behindName, trimmedRight_replicate_append, trimmedRight_escape]
  simp only [Text.escape_eq_nil_iff]

/-- Behind the name there is a blank, if there is anything at all. -/
theorem head?_behindName (token : Token) : ∀ char ∈ token.behindName.head?, char = ' ' := by
  have hlength := token.kind.fits_name.length_lt
  obtain ⟨count, hcount⟩ : ∃ count, nameWidth - token.kind.name.toList.length = count + 1 :=
    ⟨nameWidth - token.kind.name.toList.length - 1, by omega⟩
  intro char hchar
  rw [behindName_eq, hcount] at hchar
  split at hchar
  · cases hchar
  · exact (Option.some.inj hchar).symm

end Token
end SourceLexer
