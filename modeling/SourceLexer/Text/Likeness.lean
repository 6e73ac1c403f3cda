/-!
# Likeness of texts

Two texts are compared by what they have in common.  The longest run of characters that stands in
both is set aside; then the same is done with what lies to the left of it in both, and with what
lies to the right.  The share that the characters set aside have in all the characters of both
texts is their likeness, from none to the whole.

Of several longest runs the one that comes first in the first text counts, and of those the one
that comes first in the second text.  So likeness depends on the order of the two.
-/

namespace SourceLexer
namespace Text

/-- A run of characters that stands in two texts. -/
structure CommonRun where
  /-- Where the run starts in the first text. -/
  first : Nat
  /-- Where the run starts in the second text. -/
  second : Nat
  size : Nat
  deriving DecidableEq, Repr

namespace CommonRun

/-- How many characters two texts have in common at their fronts. -/
def sizeAtFront : List Char → List Char → Nat
  | char :: rest, other :: others => if char = other then sizeAtFront rest others + 1 else 0
  | _, _ => 0

/-- The longer of two runs, and of equals the former. -/
def longer (best run : CommonRun) : CommonRun :=
  if best.size < run.size then run else best

/-- The longest run that starts at the front of `front`, which lies `first` characters into its
text, and somewhere in the second text, which is gone through from `second` on. -/
def longestAt (first : Nat) (front : List Char) (best : CommonRun) (second : Nat) :
    List Char → CommonRun
  | [] => best
  | char :: rest =>
    longestAt first front (best.longer ⟨first, second, sizeAtFront front (char :: rest)⟩)
      (second + 1) rest

/-- The longest run of two texts, the first of which is gone through from `first` on. -/
def longestFrom (other : List Char) (best : CommonRun) (first : Nat) : List Char → CommonRun
  | [] => best
  | char :: rest =>
    longestFrom other (longestAt first (char :: rest) best 0 other) (first + 1) rest

/-- The longest run of two texts.  Texts without a common character have an empty one. -/
def longest (text other : List Char) : CommonRun :=
  longestFrom other ⟨0, 0, 0⟩ 0 text

/-! ## Runs do not go beyond their text -/

theorem sizeAtFront_le (text other : List Char) : sizeAtFront text other ≤ text.length := by
  fun_induction sizeAtFront text other with
  | case1 => simpa using ‹_›
  | case2 => simp
  | case3 => simp

theorem longer_end_le {best run : CommonRun} {bound : Nat} (hbest : best.first + best.size ≤ bound)
    (hrun : run.first + run.size ≤ bound) :
    (best.longer run).first + (best.longer run).size ≤ bound := by
  unfold longer
  split <;> assumption

theorem longestAt_end_le {first : Nat} {front : List Char} {best : CommonRun} {bound : Nat}
    (hbest : best.first + best.size ≤ bound) (hfront : first + front.length ≤ bound)
    (second : Nat) (other : List Char) :
    (longestAt first front best second other).first
      + (longestAt first front best second other).size ≤ bound := by
  induction other generalizing best second with
  | nil => exact hbest
  | cons char rest ih =>
    have hsize := sizeAtFront_le front (char :: rest)
    exact ih (longer_end_le hbest (Nat.le_trans (Nat.add_le_add_left hsize first) hfront)) _

theorem longestFrom_end_le {other : List Char} {best : CommonRun} {bound : Nat}
    (hbest : best.first + best.size ≤ bound) (first : Nat) (text : List Char)
    (htext : first + text.length ≤ bound) :
    (longestFrom other best first text).first + (longestFrom other best first text).size
      ≤ bound := by
  induction text generalizing best first with
  | nil => exact hbest
  | cons char rest ih =>
    simp only [List.length_cons] at htext
    exact ih (longestAt_end_le hbest (by simp; omega) 0 other) _ (by omega)

theorem longest_end_le (text other : List Char) :
    (longest text other).first + (longest text other).size ≤ text.length :=
  longestFrom_end_le (by simp) 0 text (by simp)

end CommonRun

/-- How many characters of two texts are set aside when they are compared. -/
def sharedLength (text other : List Char) : Nat :=
  let run := CommonRun.longest text other
  if _ : 0 < run.size then
    sharedLength (text.take run.first) (other.take run.second) + run.size
      + sharedLength (text.drop (run.first + run.size)) (other.drop (run.second + run.size))
  else 0
  termination_by text.length
  decreasing_by
    all_goals
      have hend := CommonRun.longest_end_le text other
      have hsize : 0 < (CommonRun.longest text other).size := ‹_›
      simp only [List.length_take, List.length_drop]
      omega

/-- The likeness of two texts, as a fraction that is not reduced. -/
structure Likeness where
  /-- The characters set aside, in both texts. -/
  shared : Nat
  /-- The characters of both texts. -/
  total : Nat
  deriving DecidableEq, Repr

namespace Likeness

/-- The likeness of two texts. -/
def ofTexts (text other : List Char) : Likeness :=
  ⟨2 * sharedLength text other, text.length + other.length⟩

/-- Whether texts of this likeness may have been mistaken for each other: it is three fifths or
more. -/
def isClose (likeness : Likeness) : Bool :=
  3 * likeness.total ≤ 5 * likeness.shared

/-- Whether a likeness is less than another. -/
def isLess (likeness other : Likeness) : Bool :=
  likeness.shared * other.total < other.shared * likeness.total

end Likeness

/-- Whether one of two candidates comes before the other as a suggestion: the one with the greater
likeness, and of equals the one that is later in the alphabet. -/
def suggestsBefore (candidate other : String × Likeness) : Bool :=
  other.2.isLess candidate.2 || (!candidate.2.isLess other.2 && other.1 ≤ candidate.1)

/-- How many candidates are suggested at most. -/
def suggestionLimit : Nat := 3

/-- The candidates that a word may have been meant to be, in alphabetical order. -/
def suggestions (word : String) (candidates : List String) : List String :=
  let compared := candidates.map fun candidate =>
    (candidate, Likeness.ofTexts candidate.toList word.toList)
  let close := (compared.filter fun candidate => candidate.2.isClose).mergeSort suggestsBefore
  ((close.take suggestionLimit).map Prod.fst).mergeSort fun name other => name ≤ other

end Text
end SourceLexer
