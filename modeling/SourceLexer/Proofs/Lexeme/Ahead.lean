import SourceLexer.Proofs.Gap

/-!
# How far a reading looks ahead

More text behind a text can change the reading at its front, but only if that reading comes close
to where the first text ends.  Three characters behind a lexeme are always enough
(`Reading.read_append`).  They are needed by a numeral alone, which goes on if an exponent mark, a
sign and a digit follow it; words, symbols and quotations ask for the next character at most.

Looking for the end of a block comment goes through the whole text.  Still it makes no difference:
a comment that does not close takes up all that there is, so nothing is left behind it, and one
that does close closes where it did.

## One lemma for each reader

For every reader there is the text that may stand behind what it has read, and the fact that more
of it changes nothing.  A gap needs a single character behind it, because of the line comments in
it.
-/

namespace SourceLexer
namespace Lexeme

/-! ## Comments and gaps -/

/-- A complete comment that has something behind it stays complete in front of more. -/
theorem Comment.Complete.append {comment behind : List Char} (h : Complete comment behind)
    (hne : behind ≠ []) (more : List Char) : Complete comment (behind ++ more) := by
  obtain ⟨char, rest, rfl⟩ := List.exists_cons_of_ne_nil hne
  cases h with
  | line hbody hbehind => exact .line hbody hbehind
  | block hbody => exact .block hbody

/-- So does a gap. -/
theorem Gap.append_behind {keepComments : Bool} {gap behind : List Char}
    (h : Gap keepComments gap behind) (hne : behind ≠ []) (more : List Char) :
    Gap keepComments gap (behind ++ more) := by
  induction h with
  | nil => exact .nil
  | blank hblank _ ih => exact .blank hblank (ih hne)
  | comment hkeep hcomplete _ ih =>
    refine .comment hkeep ?_ (ih hne)
    rw [← List.append_assoc]
    exact hcomplete.append (List.append_ne_nil_of_right_ne_nil _ hne) more

/-- Whether a comment starts is decided by two characters. -/
theorem Comment.style?_append {text : List Char} (h : 2 ≤ text.length) (more : List Char) :
    style? (text ++ more) = style? text := by
  match text, h with
  | first :: second :: rest, _ =>
    rw [List.cons_append, List.cons_append, style?_cons_cons, style?_cons_cons]

/-! ## Numerals -/

namespace Numeral

theorem StartsNoDigit.append {text : List Char} (h : StartsNoDigit text) (hne : text ≠ [])
    (more : List Char) : StartsNoDigit (text ++ more) := by
  obtain ⟨char, rest, rfl⟩ := List.exists_cons_of_ne_nil hne
  exact startsNoDigit_of_cons (h char rfl) _

/-- An introduction counts exactly if digits follow. -/
theorem withDigits_eq_nil_iff {introduction text : List Char} :
    withDigits introduction text = [] ↔ StartsNoDigit text := by
  constructor
  · intro h
    obtain ⟨behind, htext, hbehind⟩ := exists_digits text
    unfold withDigits at h
    cases hdigits : digits text with
    | nil =>
      rw [hdigits, List.nil_append] at htext
      rwa [htext]
    | cons char found =>
      rw [hdigits, List.append_eq_nil_iff] at h
      cases h.2
  · intro h
    have hdigits : digits ([] ++ text) = [] := digits_append (by simp) h
    rw [List.nil_append] at hdigits
    rw [withDigits, hdigits]

theorem fraction_append_eq_nil {text : List Char} (h : fraction text = [])
    (hlength : 2 ≤ text.length) (more : List Char) : fraction (text ++ more) = [] := by
  match text, hlength with
  | first :: second :: rest, _ =>
    by_cases hpoint : first = '.'
    · subst hpoint
      have hdigit : StartsNoDigit (second :: rest) := withDigits_eq_nil_iff.1 h
      exact withDigits_eq_nil_iff.2 (hdigit.append (List.cons_ne_nil _ _) more)
    · simp [fraction, hpoint]

theorem exponent_append_eq_nil {text : List Char} (h : exponent text = [])
    (hlength : 3 ≤ text.length) (more : List Char) : exponent (text ++ more) = [] := by
  match text, hlength with
  | mark :: sign :: digit :: rest, _ =>
    rw [List.cons_append, List.cons_append]
    rw [exponent] at h ⊢
    split_ifs at h ⊢
    · rw [withDigits_eq_nil_iff] at h ⊢
      exact h.append (List.cons_ne_nil _ _) more
    · rw [withDigits_eq_nil_iff] at h ⊢
      exact h.append (List.cons_ne_nil _ _) more
    · rfl

/-- What does not prolong a numeral does not do so with more behind it, if it is long enough for an
exponent of one digit. -/
theorem Parts.Stops.append {parts : Parts} {behind : List Char} (h : parts.Stops behind)
    (hlength : 3 ≤ behind.length) (more : List Char) : parts.Stops (behind ++ more) where
  digit := h.digit.append (List.ne_nil_of_length_pos (by omega)) more
  fraction hfraction hexponent :=
    fraction_append_eq_nil (h.fraction hfraction hexponent) (by omega) more
  exponent hexponent := exponent_append_eq_nil (h.exponent hexponent) hlength more

end Numeral

/-! ## Quotations -/

/-- A quotation that does not take up all of a text is the same with more behind the text. -/
theorem Quotation.readItems_append_behind {quote : Char} (hslash : quote ≠ '\\')
    (hfeed : quote ≠ '\n') {text : List Char} (h : (readItems quote text).text ≠ text)
    (more : List Char) : readItems quote (text ++ more) = readItems quote text := by
  obtain ⟨items, hitems, ⟨rest, rfl⟩ | ⟨rest, rfl⟩ | rfl | rfl⟩ := exists_items quote text
  · rw [List.append_assoc, List.cons_append, readItems_closed hslash hitems,
      readItems_closed hslash hitems]
  · rw [List.append_assoc, List.cons_append, readItems_lineFeed hslash hfeed hitems,
      readItems_lineFeed hslash hfeed hitems]
  · rw [readItems_end hslash hitems] at h
    exact absurd rfl h
  · rw [readItems_backslash hslash hitems] at h
    exact absurd rfl h

/-! ## All readers together -/

namespace Reading

/-- A word that does not take up all of a text is the same with more behind the text. -/
theorem wordRead_append {text : List Char} (h : Word.read text ≠ text) (more : List Char) :
    Word.read (text ++ more) = Word.read text := by
  rw [Word.read, List.takeWhile_append, if_neg, Word.read]
  intro hlength
  exact h ((List.takeWhile_prefix _).eq_of_length hlength)

theorem readPlain_append {char : Char} {rest : List Char}
    (h : (readPlain char rest).text.length + 3 ≤ (char :: rest).length) (more : List Char) :
    readPlain char (rest ++ more) = readPlain char rest := by
  by_cases hquote : char = '"' ∨ char = '\''
  · have hslash : char ≠ '\\' := by rcases hquote with rfl | rfl <;> decide
    have hfeed : char ≠ '\n' := by rcases hquote with rfl | rfl <;> decide
    obtain ⟨build, hbuild, hread⟩ := exists_readPlain_quote hquote
    have hrest : (Quotation.readItems char rest).text ≠ rest := by
      intro hall
      have hwhole : (readPlain char rest).text = char :: rest := by
        rw [hread, hbuild, Quotation.read, Quotation.after, hall]
        rfl
      rw [hwhole] at h
      omega
    rw [hread, hread, Quotation.read, Quotation.read,
      Quotation.readItems_append_behind hslash hfeed hrest]
  · rw [not_or] at hquote
    unfold readPlain at h ⊢
    split_ifs at h ⊢ with hword hdigit
    · have hrest : Word.read (char :: rest) ≠ char :: rest := by
        intro hall
        rw [ofWord, text_verbatim, hall] at h
        omega
      rw [← List.cons_append, wordRead_append hrest]
    · obtain ⟨parts, hparts, behind, hstops, htext⟩ := Numeral.exists_read hdigit rest
      have hread := Numeral.read_append hparts hstops
      have hbehind : 3 ≤ behind.length := by
        rw [htext, ofNumeral, hread, text_verbatim, List.length_append] at h
        omega
      rw [← List.cons_append, htext, List.append_assoc, hread,
        Numeral.read_append hparts (hstops.append hbehind more)]
    · exact absurd ‹_› hquote.1
    · exact absurd ‹_› hquote.2
    · cases rest with
      | nil => simp at h
      | cons second rest => rfl

/-- **Three characters behind a lexeme are enough.**  Where that many are left behind a reading,
more text behind them changes nothing in it. -/
theorem read_append {text : List Char} (h : (read text).text.length + 3 ≤ text.length)
    (more : List Char) : read (text ++ more) = read text := by
  cases text with
  | nil => simp at h
  | cons char rest =>
    rcases read_cases char rest with ⟨comment, behind, htext, hcomplete⟩ | hopen | hstyle
    · have hne : behind ≠ [] := by
        rintro rfl
        rw [htext, read_of_complete hcomplete, text_verbatim, List.append_nil] at h
        omega
      rw [htext, read_of_complete hcomplete, List.append_assoc]
      exact read_of_complete (hcomplete.append hne more)
    · rw [hopen, Reading.text] at h
      omega
    · have hlength : 2 ≤ (char :: rest).length := by omega
      have hnone : Comment.style? (char :: (rest ++ more)) = none := by
        rw [← List.cons_append, Comment.style?_append hlength, hstyle]
      rw [read_of_style?_none hstyle] at h ⊢
      rw [List.cons_append, read_of_style?_none hnone, readPlain_append h]

end Reading
end Lexeme
end SourceLexer
