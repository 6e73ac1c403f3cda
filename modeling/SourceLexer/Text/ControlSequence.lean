/-!
# Control sequences

A control sequence makes a terminal change colours, move its cursor or clear its screen: an escape
character and a bracket, then parameters, then one ASCII letter.  What a source text or a caller
supplies may hold such sequences, and a text that goes somewhere else than to a terminal is
written without them.

Something that only begins like a control sequence is ordinary text and stays.  Sequences are
looked for from the left, once: where taking one out joins two pieces to what looks like another,
that one stays as well.
-/

namespace SourceLexer
namespace Text
namespace ControlSequence

/-- Whether the character can stand among the parameters of a control sequence. -/
def isParameter (char : Char) : Bool :=
  char = ';' || char = '?' || char.isDigit

/-- What is behind the control sequence at the front of the text, if there is one. -/
def behind? : List Char → Option (List Char)
  | '\x1b' :: '[' :: rest =>
    match rest.dropWhile isParameter with
    | final :: behind => if final.isAlpha then some behind else none
    | [] => none
  | _ => none

/-- A control sequence is made of at least three characters. -/
theorem length_lt_of_behind? {text behind : List Char} (h : behind? text = some behind) :
    behind.length < text.length := by
  unfold behind? at h
  split at h
  · next rest =>
    split at h
    · next final found hfound =>
      split at h
      · cases h
        have hdrop := (List.dropWhile_suffix (l := rest) isParameter).length_le
        rw [hfound] at hdrop
        simp only [List.length_cons] at hdrop ⊢
        omega
      · cases h
    · cases h
  · cases h

end ControlSequence

/-- The text without its control sequences. -/
def withoutControlSequences (text : List Char) : List Char :=
  match _ : ControlSequence.behind? text with
  | some behind => withoutControlSequences behind
  | none =>
    match text with
    | [] => []
    | char :: rest => char :: withoutControlSequences rest
  termination_by text.length
  decreasing_by
    · exact ControlSequence.length_lt_of_behind? ‹_›
    · simp

/-- A text as it is written to something that is no terminal. -/
def plain (text : String) : String :=
  String.ofList (withoutControlSequences text.toList)

end Text
end SourceLexer
