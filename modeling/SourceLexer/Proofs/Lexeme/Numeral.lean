import SourceLexer.Lexeme.Numeral
import SourceLexer.Proofs.Stretch

/-!
# The grammar of numerals

`Parts.WellFormed` is the grammar, part by part, and `Parts.Stops` says when a text cannot prolong
a numeral that it stands behind: it starts with no digit, and with no part that the numeral could
still take.  These two conditions are all there is to reading a numeral.  A text that starts with
a digit is a numeral that meets both and something behind it (`exists_read`), and wherever both
are met the numeral is read (`read_append`).

So to compare what is read in two texts one compares what can stand behind a numeral, which is a
matter of a few characters.
-/

namespace SourceLexer
namespace Lexeme
namespace Numeral

/-- A run of digits, not empty. -/
def IsDigits (text : List Char) : Prop :=
  text ≠ [] ∧ ∀ char ∈ text, char.isDigit = true

/-- A point and digits. -/
def IsFraction (text : List Char) : Prop :=
  ∃ found, IsDigits found ∧ text = '.' :: found

/-- A mark, possibly a sign, and digits. -/
def IsExponent (text : List Char) : Prop :=
  ∃ mark sign found, isExponentMark mark = true
    ∧ (sign = [] ∨ ∃ char, isSign char = true ∧ sign = [char])
    ∧ IsDigits found ∧ text = mark :: (sign ++ found)

/-- The text does not start with a digit. -/
def StartsNoDigit (text : List Char) : Prop :=
  ∀ char ∈ text.head?, char.isDigit = false

/-- The grammar of a numeral. -/
structure Parts.WellFormed (parts : Parts) : Prop where
  whole : IsDigits parts.whole
  fraction : parts.fraction = [] ∨ IsFraction parts.fraction
  exponent : parts.exponent = [] ∨ IsExponent parts.exponent

/-- What stands behind a numeral does not prolong it. -/
structure Parts.Stops (parts : Parts) (behind : List Char) : Prop where
  digit : StartsNoDigit behind
  fraction : parts.fraction = [] → parts.exponent = [] → Numeral.fraction behind = []
  exponent : parts.exponent = [] → Numeral.exponent behind = []

/-! ## Each part by itself -/

theorem startsNoDigit_of_cons {char : Char} (h : char.isDigit = false) (rest : List Char) :
    StartsNoDigit (char :: rest) := by
  intro first hfirst
  obtain rfl : char = first := Option.some.inj hfirst
  exact h

theorem digits_append {found behind : List Char} (hfound : ∀ char ∈ found, char.isDigit = true)
    (hbehind : StartsNoDigit behind) : digits (found ++ behind) = found :=
  takeWhile_append_of_stop hfound hbehind

/-- The digits at the front of a text leave something behind that starts with no digit. -/
theorem exists_digits (text : List Char) :
    ∃ behind, text = digits text ++ behind ∧ StartsNoDigit behind :=
  ⟨text.dropWhile Char.isDigit, List.takeWhile_append_dropWhile.symm,
    fun _ => eq_false_of_mem_head?_dropWhile⟩

theorem withDigits_append (introduction : List Char) {found behind : List Char}
    (hfound : IsDigits found) (hbehind : StartsNoDigit behind) :
    withDigits introduction (found ++ behind) = introduction ++ found := by
  unfold withDigits
  rw [digits_append hfound.2 hbehind]
  cases found with
  | nil => exact absurd rfl hfound.1
  | cons char found => rfl

theorem withDigits_cases (introduction text : List Char) :
    withDigits introduction text = [] ∨ ∃ found behind, IsDigits found ∧ StartsNoDigit behind
      ∧ text = found ++ behind ∧ withDigits introduction text = introduction ++ found := by
  obtain ⟨behind, htext, hbehind⟩ := exists_digits text
  by_cases hempty : digits text = []
  · left
    unfold withDigits
    rw [hempty]
  · have hfound : IsDigits (digits text) := ⟨hempty, fun char hchar => List.mem_takeWhile_imp hchar⟩
    refine .inr ⟨digits text, behind, hfound, hbehind, htext, ?_⟩
    conv => lhs; rw [htext]
    exact withDigits_append introduction hfound hbehind

theorem fraction_append {found behind : List Char} (hfound : IsFraction found)
    (hbehind : StartsNoDigit behind) : fraction (found ++ behind) = found := by
  obtain ⟨found, hdigits, rfl⟩ := hfound
  exact withDigits_append ['.'] hdigits hbehind

theorem exists_fraction {text : List Char} (h : StartsNoDigit text) :
    ∃ behind, (fraction text = [] ∨ IsFraction (fraction text)) ∧ StartsNoDigit behind
      ∧ text = fraction text ++ behind := by
  unfold fraction
  split
  · next rest =>
    rcases withDigits_cases ['.'] rest with hnone | ⟨found, behind, hfound, hbehind, rfl, heq⟩
    · rw [hnone]
      exact ⟨_, .inl rfl, h, rfl⟩
    · rw [heq]
      exact ⟨behind, .inr ⟨found, hfound, rfl⟩, hbehind, rfl⟩
  · exact ⟨text, .inl rfl, h, rfl⟩

theorem isSign_of_isDigit {char : Char} (h : char.isDigit = true) : isSign char = false := by
  rw [isSign, Bool.or_eq_false_iff, decide_eq_false_iff_not, decide_eq_false_iff_not]
  constructor <;> rintro rfl <;> exact absurd h (by decide)

theorem exponent_append {found behind : List Char} (hfound : IsExponent found)
    (hbehind : StartsNoDigit behind) : exponent (found ++ behind) = found := by
  obtain ⟨mark, sign, found, hmark, rfl | ⟨char, hchar, rfl⟩, hdigits, rfl⟩ := hfound
  · have hread := withDigits_append [mark] hdigits hbehind
    cases found with
    | nil => exact absurd rfl hdigits.1
    | cons first found =>
      have hsign : isSign first = false := isSign_of_isDigit (hdigits.2 first List.mem_cons_self)
      simpa [exponent, hmark, hsign] using hread
  · simpa [exponent, hmark, hchar] using withDigits_append [mark, char] hdigits hbehind

theorem exists_exponent {text : List Char} (h : StartsNoDigit text) :
    ∃ behind, (exponent text = [] ∨ IsExponent (exponent text)) ∧ StartsNoDigit behind
      ∧ text = exponent text ++ behind := by
  unfold exponent
  split
  · next mark sign rest =>
    split
    · next hmark =>
      split
      · next hsign =>
        rcases withDigits_cases [mark, sign] rest with
          hnone | ⟨found, behind, hfound, hbehind, rfl, heq⟩
        · rw [hnone]
          exact ⟨_, .inl rfl, h, rfl⟩
        · rw [heq]
          exact ⟨behind, .inr ⟨mark, [sign], found, hmark, .inr ⟨sign, hsign, rfl⟩, hfound, rfl⟩,
            hbehind, rfl⟩
      · rcases withDigits_cases [mark] (sign :: rest) with
          hnone | ⟨found, behind, hfound, hbehind, htext, heq⟩
        · rw [hnone]
          exact ⟨_, .inl rfl, h, rfl⟩
        · rw [heq, htext]
          exact ⟨behind, .inr ⟨mark, [], found, hmark, .inl rfl, hfound, rfl⟩, hbehind, rfl⟩
    · exact ⟨_, .inl rfl, h, rfl⟩
  · exact ⟨text, .inl rfl, h, rfl⟩

/-! ## The numeral as a whole -/

theorem IsExponent.startsNoDigit {text : List Char} (h : IsExponent text)
    (behind : List Char) : StartsNoDigit (text ++ behind) := by
  obtain ⟨mark, sign, found, hmark, -, -, rfl⟩ := h
  refine startsNoDigit_of_cons ?_ _
  rw [isExponentMark, Bool.or_eq_true, decide_eq_true_iff, decide_eq_true_iff] at hmark
  rcases hmark with rfl | rfl <;> decide

theorem IsExponent.fraction_append {text : List Char} (h : IsExponent text)
    (behind : List Char) : fraction (text ++ behind) = [] := by
  obtain ⟨mark, sign, found, hmark, -, -, rfl⟩ := h
  rw [isExponentMark, Bool.or_eq_true, decide_eq_true_iff, decide_eq_true_iff] at hmark
  rcases hmark with rfl | rfl <;> rfl

/-- A numeral is read wherever nothing behind it prolongs it. -/
theorem read_append {parts : Parts} (hparts : parts.WellFormed) {behind : List Char}
    (hstops : parts.Stops behind) : read (parts.text ++ behind) = parts := by
  obtain ⟨whole, fraction, exponent⟩ := parts
  -- from the right: the exponent, then the fraction in front of it, then the whole
  have hexponent : Numeral.exponent (exponent ++ behind) = exponent := by
    rcases hparts.exponent with h | h
    · obtain rfl : exponent = [] := h
      exact hstops.exponent rfl
    · exact exponent_append h hstops.digit
  have hdigit : StartsNoDigit (exponent ++ behind) := by
    rcases hparts.exponent with h | h
    · obtain rfl : exponent = [] := h
      exact hstops.digit
    · exact IsExponent.startsNoDigit h behind
  have hfraction : Numeral.fraction (fraction ++ (exponent ++ behind)) = fraction := by
    rcases hparts.fraction with h | h
    · obtain rfl : fraction = [] := h
      rcases hparts.exponent with h | h
      · obtain rfl : exponent = [] := h
        exact hstops.fraction rfl rfl
      · exact IsExponent.fraction_append h behind
    · exact fraction_append h hdigit
  have hpoint : StartsNoDigit (fraction ++ (exponent ++ behind)) := by
    rcases hparts.fraction with h | ⟨found, -, h⟩
    · obtain rfl : fraction = [] := h
      exact hdigit
    · obtain rfl : fraction = '.' :: found := h
      exact startsNoDigit_of_cons (by decide) _
  have hwhole : digits (whole ++ (fraction ++ (exponent ++ behind))) = whole :=
    digits_append hparts.whole.2 hpoint
  simp only [read, Parts.text, List.append_assoc, hwhole, List.drop_left, hfraction, hexponent]

/-- A text that starts with a digit is a numeral and something behind that does not prolong it. -/
theorem exists_read {char : Char} (hchar : char.isDigit = true) (rest : List Char) :
    ∃ parts : Parts, parts.WellFormed ∧ ∃ behind, parts.Stops behind
      ∧ char :: rest = parts.text ++ behind := by
  have hwhole : IsDigits (digits (char :: rest)) := by
    refine ⟨?_, fun first hfirst => List.mem_takeWhile_imp hfirst⟩
    rw [digits, List.takeWhile_cons_of_pos hchar]
    exact List.cons_ne_nil _ _
  obtain ⟨afterWhole, htext, hdigit⟩ := exists_digits (char :: rest)
  obtain ⟨afterFraction, hfraction, hdigit', hsplit⟩ := exists_fraction hdigit
  obtain ⟨behind, hexponent, hdigit'', hsplit'⟩ := exists_exponent hdigit'
  refine ⟨⟨digits (char :: rest), fraction afterWhole, exponent afterFraction⟩,
    ⟨hwhole, hfraction, hexponent⟩, behind, ⟨hdigit'', ?_, ?_⟩, ?_⟩
  · intro (hnone : fraction afterWhole = []) (hnone' : exponent afterFraction = [])
    rw [hnone, List.nil_append] at hsplit
    rw [hnone', List.nil_append] at hsplit'
    rw [← hsplit', ← hsplit, hnone]
  · intro (hnone : exponent afterFraction = [])
    rw [hnone, List.nil_append] at hsplit'
    rw [← hsplit', hnone]
  · rw [Parts.text, List.append_assoc, List.append_assoc, ← hsplit', ← hsplit, ← htext]

/-! ## Other texts behind the same numeral -/

/-- Nothing at all prolongs no numeral. -/
theorem Parts.Stops.nil (parts : Parts) : parts.Stops [] :=
  ⟨fun _ h => (Option.not_mem_none _ h).elim, fun _ _ => rfl, fun _ => rfl⟩

/-- A numeral is read again from its own text. -/
theorem read_text {char : Char} (hchar : char.isDigit = true) (rest : List Char) :
    read (read (char :: rest)).text = read (char :: rest) := by
  obtain ⟨parts, hparts, behind, hstops, htext⟩ := exists_read hchar rest
  have halone := read_append hparts (.nil parts)
  rw [List.append_nil] at halone
  rw [htext, read_append hparts hstops, halone]

theorem StartsNoDigit.append_lineFeed {text : List Char} (h : StartsNoDigit text)
    (rest : List Char) : StartsNoDigit (text ++ '\n' :: rest) := by
  cases text with
  | nil => exact startsNoDigit_of_cons (by decide) rest
  | cons char text => exact startsNoDigit_of_cons (h char rfl) _

theorem withDigits_append_lineFeed (introduction text rest : List Char) :
    withDigits introduction (text ++ '\n' :: rest) = withDigits introduction text := by
  have hdigits : digits (text ++ '\n' :: rest) = digits text := by
    obtain ⟨behind, htext, hbehind⟩ := exists_digits text
    conv => lhs; rw [htext, List.append_assoc]
    exact digits_append (fun char hchar => List.mem_takeWhile_imp hchar)
      (hbehind.append_lineFeed rest)
  rw [withDigits, hdigits, withDigits]

theorem fraction_append_lineFeed (text rest : List Char) :
    fraction (text ++ '\n' :: rest) = fraction text := by
  cases text with
  | nil => rfl
  | cons char text =>
    by_cases h : char = '.'
    · subst h
      exact withDigits_append_lineFeed ['.'] text rest
    · simp [fraction, h]

theorem exponent_append_lineFeed (text rest : List Char) :
    exponent (text ++ '\n' :: rest) = exponent text := by
  match text with
  | [] => cases rest <;> rfl
  | [mark] =>
    -- a line feed is neither a sign nor a digit
    simp [exponent, isSign, withDigits, digits]
  | mark :: sign :: text =>
    have hsigned := withDigits_append_lineFeed [mark, sign] text rest
    have hplain := withDigits_append_lineFeed [mark] (sign :: text) rest
    rw [List.cons_append] at hplain
    simp [exponent, hsigned, hplain]

/-- A numeral that has come to its end in front of some text still has if a line feed follows
that text. -/
theorem Parts.Stops.append_lineFeed {parts : Parts} {behind : List Char}
    (h : parts.Stops behind) (rest : List Char) : parts.Stops (behind ++ '\n' :: rest) where
  digit := h.digit.append_lineFeed rest
  fraction hfraction hexponent := by
    rw [fraction_append_lineFeed, h.fraction hfraction hexponent]
  exponent hexponent := by
    rw [exponent_append_lineFeed, h.exponent hexponent]

/-- A line feed behind a text changes nothing in the numeral at its front. -/
theorem read_append_lineFeed {char : Char} (hchar : char.isDigit = true) (text rest : List Char) :
    read (char :: (text ++ '\n' :: rest)) = read (char :: text) := by
  obtain ⟨parts, hparts, behind, hstops, htext⟩ := exists_read hchar text
  rw [← List.cons_append, htext, List.append_assoc,
    read_append hparts (hstops.append_lineFeed rest), read_append hparts hstops]

end Numeral
end Lexeme
end SourceLexer
