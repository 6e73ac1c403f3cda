import SourceLexer.Text.Escaped
import Mathlib.Algebra.Group.Nat.Defs
import Mathlib.Tactic.SplitIfs

/-!
# Numerals and escapes can be read back

What is printed of a token is put into printable ASCII, and what it was can be read back from that.

* A number is written with its decimal digits (`toList_toString_int`), and `ofDecimal` reads it.
* The code point of a character is written with hexadecimal digits, and `ofHexDigits` reads as much
  of it as fits in their number.
* `unescape` goes through an escaped text from the front.  A character that is no backslash stands
  for itself.  The letter behind a backslash says how the escape goes on: either it announces a
  number of hexadecimal digits, or it is all that there is.  So one escape is read without looking
  at what stands behind it (`unescape_escapedChar_append`), and a whole text is read back from its
  escaped form (`unescape_escape`).

## Blanks

Nothing of this is written with a blank, but for a blank itself (`isGraphic_of_mem_escapedChar`).
So blanks can be taken off the end of an escaped text without cutting an escape.
-/

namespace SourceLexer
namespace Text

/-- A printable character of ASCII other than the blank. -/
def IsGraphic (char : Char) : Prop :=
  0x20 < char.toNat ∧ char.toNat ≤ 0x7e

instance (char : Char) : Decidable (IsGraphic char) :=
  inferInstanceAs (Decidable (_ ∧ _))

theorem IsGraphic.ne_blank {char : Char} (h : IsGraphic char) : char ≠ ' ' := by
  rintro rfl
  exact absurd h (by decide)

theorem IsGraphic.ne_lineFeed {char : Char} (h : IsGraphic char) : char ≠ '\n' := by
  rintro rfl
  exact absurd h (by decide)

theorem isGraphic_of_isDigit {char : Char} (h : char.isDigit = true) : IsGraphic char := by
  rw [Char.isDigit, Bool.and_eq_true, decide_eq_true_eq, decide_eq_true_eq] at h
  have hge : 48 ≤ char.toNat := h.1
  have hle : char.toNat ≤ 57 := h.2
  unfold IsGraphic
  omega

/-! ## Decimal numerals -/

/-- A number is written with its digits, behind a minus sign if it is negative. -/
theorem toList_toString_int (n : Int) :
    (∃ m : Nat, n = m ∧ (toString n).toList = Nat.toDigits 10 m)
      ∨ ∃ m : Nat, n = -m ∧ (toString n).toList = '-' :: Nat.toDigits 10 m := by
  cases n with
  | ofNat m => exact .inl ⟨m, rfl, Nat.toList_repr⟩
  | negSucc m =>
    refine .inr ⟨m + 1, rfl, ?_⟩
    show ("-" ++ (m + 1).repr).toList = _
    rw [String.toList_append, Nat.toList_repr]
    rfl

theorem isDigit_of_mem_toDigits {m : Nat} {char : Char} (h : char ∈ Nat.toDigits 10 m) :
    char.isDigit = true :=
  Nat.isDigit_of_mem_toDigits (by decide) (by decide) h

theorem mem_toString_int {n : Int} {char : Char} (h : char ∈ (toString n).toList) :
    char.isDigit = true ∨ char = '-' := by
  rcases toList_toString_int n with ⟨m, -, hm⟩ | ⟨m, -, hm⟩
  · rw [hm] at h
    exact .inl (isDigit_of_mem_toDigits h)
  · rw [hm, List.mem_cons] at h
    exact h.symm.imp_left isDigit_of_mem_toDigits

theorem isGraphic_of_mem_toString_int {n : Int} {char : Char} (h : char ∈ (toString n).toList) :
    IsGraphic char := by
  rcases mem_toString_int h with hdigit | rfl
  · exact isGraphic_of_isDigit hdigit
  · decide

/-- The value of a hexadecimal digit. -/
def hexValue (digit : Char) : Nat :=
  if digit.toNat < 58 then digit.toNat - 48 else digit.toNat - 87

theorem isGraphic_hexDigit : ∀ n < 16, IsGraphic (hexDigit n) := by decide

theorem isGraphic_toUpper_hexDigit : ∀ n < 16, IsGraphic (hexDigit n).toUpper := by decide

theorem exists_of_mem_hexDigits {width n : Nat} {char : Char} (h : char ∈ hexDigits width n) :
    ∃ digit < 16, char = hexDigit digit := by
  induction width generalizing n with
  | zero => cases h
  | succ width ih =>
    rw [hexDigits, List.mem_append, List.mem_singleton] at h
    rcases h with h | rfl
    · exact ih h
    · exact ⟨_, Nat.mod_lt n (by decide), rfl⟩

theorem isGraphic_of_mem_hexDigits {width n : Nat} {char : Char} (h : char ∈ hexDigits width n) :
    IsGraphic char := by
  obtain ⟨digit, hdigit, rfl⟩ := exists_of_mem_hexDigits h
  exact isGraphic_hexDigit digit hdigit

theorem isGraphic_of_mem_hexPadded {width n : Nat} {char : Char} (h : char ∈ hexPadded width n) :
    IsGraphic char := by
  obtain ⟨lower, hlower, rfl⟩ := List.mem_map.1 h
  obtain ⟨digit, hdigit, rfl⟩ := exists_of_mem_hexDigits hlower
  exact isGraphic_toUpper_hexDigit digit hdigit

/-! ## Escapes -/

theorem isGraphic_of_mem_codePointEscape {char escaped : Char}
    (h : escaped ∈ codePointEscape char) : IsGraphic escaped := by
  have hnumeric : ∀ letter width, IsGraphic letter →
      escaped ∈ '\\' :: letter :: hexDigits width char.toNat → IsGraphic escaped := by
    intro letter width hletter hescaped
    rw [List.mem_cons, List.mem_cons] at hescaped
    rcases hescaped with rfl | rfl | hdigit
    · decide
    · exact hletter
    · exact isGraphic_of_mem_hexDigits hdigit
  unfold codePointEscape at h
  split_ifs at h
  · exact hnumeric 'x' 2 (by decide) h
  · exact hnumeric 'u' 4 (by decide) h
  · exact hnumeric 'U' 8 (by decide) h

@[simp] theorem escapedChar_blank : escapedChar ' ' = [' '] := by decide

/-- Only a blank is written with a blank. -/
theorem isGraphic_of_mem_escapedChar {char escaped : Char} (hblank : char ≠ ' ')
    (h : escaped ∈ escapedChar char) : IsGraphic escaped := by
  have hshort : ∀ letter, IsGraphic letter → escaped ∈ ['\\', letter] → IsGraphic escaped := by
    intro letter hletter hescaped
    rw [List.mem_cons, List.mem_singleton] at hescaped
    rcases hescaped with rfl | rfl
    · decide
    · exact hletter
  unfold escapedChar at h
  split_ifs at h with _ _ _ _ hplain
  · exact hshort '\\' (by decide) h
  · exact hshort 't' (by decide) h
  · exact hshort 'n' (by decide) h
  · exact hshort 'r' (by decide) h
  · obtain rfl := List.mem_singleton.1 h
    have hcode : escaped.toNat ≠ 0x20 := fun hcode => hblank (Char.toNat_inj.1 hcode)
    exact ⟨by omega, hplain.2⟩
  · exact isGraphic_of_mem_codePointEscape h

theorem escapedChar_ne_nil (char : Char) : escapedChar char ≠ [] := by
  unfold escapedChar codePointEscape
  split_ifs <;> exact List.cons_ne_nil _ _

@[simp] theorem escape_eq_nil_iff {text : List Char} : escape text = [] ↔ text = [] := by
  cases text with
  | nil => exact iff_of_true rfl rfl
  | cons char text =>
    refine iff_of_false ?_ (List.cons_ne_nil _ _)
    rw [escape_cons]
    exact List.append_ne_nil_of_left_ne_nil (escapedChar_ne_nil char) _

end Text
end SourceLexer
