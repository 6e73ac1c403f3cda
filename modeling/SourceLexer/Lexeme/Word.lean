import SourceLexer.Token.Spelling

/-!
# Words

A word is a run of ASCII letters, digits and underscores that does not start with a digit.  The
whole run is one word, and it is a keyword only if all of it is.
-/

namespace SourceLexer
namespace Lexeme
namespace Word

/-- Whether a word can start with the character. -/
def isStart (char : Char) : Bool :=
  char.isAlpha || char = '_'

/-- Whether a word can go on with the character. -/
def isPart (char : Char) : Bool :=
  char.isAlphanum || char = '_'

/-- The word at the front of the text. -/
def read (text : List Char) : List Char :=
  text.takeWhile isPart

/-- The kind of a word. -/
def kind (word : List Char) : Token.Kind :=
  match Keyword.ofText? (String.ofList word) with
  | some keyword => .keyword keyword
  | none => .identifier

/-- A word carries its text, whether it is a keyword or not. -/
theorem carriesText_kind (word : List Char) : (kind word).carriesText = true := by
  unfold kind
  split <;> rfl

/-- Letters are those of ASCII. -/
theorem bounds_of_isAlpha {char : Char} (h : char.isAlpha = true) :
    (65 ≤ char.toNat ∧ char.toNat ≤ 90) ∨ (97 ≤ char.toNat ∧ char.toNat ≤ 122) := by
  rcases Bool.or_eq_true_iff.1 h with hupper | hlower
  · exact .inl (of_decide_eq_true hupper)
  · obtain ⟨hge, hle⟩ := Bool.and_eq_true_iff.1 hlower
    exact .inr ⟨of_decide_eq_true hge, of_decide_eq_true hle⟩

theorem isPart_of_isStart {char : Char} (h : isStart char = true) : isPart char = true := by
  simp only [isStart, Bool.or_eq_true] at h
  simp only [isPart, Char.isAlphanum, Bool.or_eq_true]
  exact h.elim (fun h => .inl (.inl h)) .inr

theorem read_cons {char : Char} (h : isStart char = true) (rest : List Char) :
    read (char :: rest) = char :: rest.takeWhile isPart := by
  simp [read, isPart_of_isStart h]

end Word
end Lexeme
end SourceLexer
