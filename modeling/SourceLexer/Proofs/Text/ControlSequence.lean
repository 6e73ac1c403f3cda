import SourceLexer.Lexeme.Word
import SourceLexer.Text.ControlSequence

/-!
# Control sequences are taken out

What is asked of a function that clears a text of control sequences, and that `Text.plain` does it.
A sequence is known by where it ends: no letter is a parameter, so behind the bracket the first
character that is none has to be the letter.

A text in which the escape character begins something else is left out of this.  Nothing that is
said of a program depends on what becomes of it.
-/

namespace SourceLexer
namespace Text

/-- Taking the control sequences out of a text. -/
structure Strips (strip : String → String) : Prop where
  /-- A text in which nothing escapes stays as it is. -/
  keeps : ∀ text : String, '\x1b' ∉ text.toList → strip text = text
  /-- The first sequence goes, and then those behind it. -/
  removes : ∀ (front parameters : String) (letter : Char) (behind : String),
    '\x1b' ∉ front.toList →
      (∀ char ∈ parameters.toList, ControlSequence.isParameter char = true) →
      letter.isAlpha = true →
      strip (front ++ "\x1b[" ++ parameters ++ letter.toString ++ behind) = front ++ strip behind

namespace ControlSequence

theorem isParameter_of_isAlpha {char : Char} (h : char.isAlpha = true) :
    isParameter char = false := by
  rw [← Bool.not_eq_true]
  intro hparameter
  simp only [isParameter, Bool.or_eq_true, decide_eq_true_eq] at hparameter
  rcases hparameter with (rfl | rfl) | hdigit
  · exact absurd h (by decide)
  · exact absurd h (by decide)
  · have hbounds := Lexeme.Word.bounds_of_isAlpha h
    rw [Char.isDigit, Bool.and_eq_true, decide_eq_true_eq, decide_eq_true_eq] at hdigit
    have hle : char.toNat ≤ 57 := hdigit.2
    omega

/-- A sequence ends with its letter. -/
theorem behind?_eq_some {parameters : List Char} {letter : Char}
    (hparameters : ∀ char ∈ parameters, isParameter char = true) (hletter : letter.isAlpha = true)
    (behind : List Char) :
    behind? ('\x1b' :: '[' :: (parameters ++ letter :: behind)) = some behind := by
  have hdrop : (parameters ++ letter :: behind).dropWhile isParameter = letter :: behind := by
    rw [List.dropWhile_append_of_pos hparameters,
      List.dropWhile_cons_of_neg (by simp [isParameter_of_isAlpha hletter])]
  rw [behind?, hdrop]
  exact if_pos hletter

end ControlSequence

@[simp] theorem withoutControlSequences_nil : withoutControlSequences [] = [] := by
  simp [withoutControlSequences, ControlSequence.behind?]

theorem withoutControlSequences_of_behind? {text behind : List Char}
    (h : ControlSequence.behind? text = some behind) :
    withoutControlSequences text = withoutControlSequences behind := by
  rw [withoutControlSequences]
  split
  · next found hfound => rw [h] at hfound; cases hfound; rfl
  · next hfound => rw [h] at hfound; cases hfound

theorem withoutControlSequences_cons {char : Char} {rest : List Char}
    (h : ControlSequence.behind? (char :: rest) = none) :
    withoutControlSequences (char :: rest) = char :: withoutControlSequences rest := by
  rw [withoutControlSequences]
  split
  · next found hfound => rw [h] at hfound; cases hfound
  · rfl

/-- Where nothing escapes, nothing is taken out. -/
theorem withoutControlSequences_append {front : List Char} (h : '\x1b' ∉ front)
    (behind : List Char) :
    withoutControlSequences (front ++ behind) = front ++ withoutControlSequences behind := by
  induction front with
  | nil => rfl
  | cons char front ih =>
    obtain ⟨hchar, hfront⟩ := List.ne_and_not_mem_of_not_mem_cons h
    have hnone : ControlSequence.behind? (char :: (front ++ behind)) = none := by
      unfold ControlSequence.behind?
      split
      · next heq => exact absurd (List.cons.inj heq).1.symm hchar
      · rfl
    rw [List.cons_append, withoutControlSequences_cons hnone, ih hfront, List.cons_append]

theorem strips_plain : Strips plain where
  keeps text h := by
    have hlist := withoutControlSequences_append h []
    rw [List.append_nil, withoutControlSequences_nil, List.append_nil] at hlist
    rw [plain, hlist, String.ofList_toList]
  removes front parameters letter behind hfront hparameters hletter := by
    have htext : (front ++ "\x1b[" ++ parameters ++ letter.toString ++ behind).toList
        = front.toList
          ++ '\x1b' :: '[' :: (parameters.toList ++ letter :: behind.toList) := by
      simp
    have hbehind := ControlSequence.behind?_eq_some hparameters hletter behind.toList
    rw [plain, htext, withoutControlSequences_append hfront,
      withoutControlSequences_of_behind? hbehind, String.ofList_append, String.ofList_toList, plain]

end Text
end SourceLexer
