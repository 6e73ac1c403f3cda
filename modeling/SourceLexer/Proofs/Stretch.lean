import Mathlib.Data.List.TakeWhile

/-!
# Stretches of a text

A reader often takes up characters of one kind for as long as they last.  Such a stretch is all of
one kind, and the first character behind it is of another kind; these two things together say where
it ends (`takeWhile_append_of_stop`).  Often there is just one character at which it stops, a line
feed or an end mark.
-/

namespace SourceLexer

variable {kind : Char → Bool} {stop char : Char} {text : List Char}

/-- A stretch is taken up to where a character of another kind stands. -/
theorem takeWhile_append_of_stop {front behind : List Char}
    (hfront : ∀ char ∈ front, kind char = true)
    (hbehind : ∀ char ∈ behind.head?, kind char = false) :
    (front ++ behind).takeWhile kind = front := by
  have hstop : behind.takeWhile kind = [] := by
    cases behind with
    | nil => rfl
    | cons char behind => exact List.takeWhile_cons_of_neg (by simp [hbehind char rfl])
  rw [List.takeWhile_append_of_pos hfront, hstop, List.append_nil]

/-- Behind a stretch there is a character of another kind, if there is anything at all. -/
theorem eq_false_of_mem_head?_dropWhile (h : char ∈ (text.dropWhile kind).head?) :
    kind char = false := by
  have hstop := List.head?_dropWhile_not kind text
  rwa [Option.mem_def.1 h] at hstop

/-! ## Up to one character -/

theorem forall_bne_of_notMem (h : stop ∉ text) : ∀ char ∈ text, (char != stop) = true := by
  intro char hchar
  rw [bne_iff_ne]
  rintro rfl
  exact h hchar

theorem notMem_takeWhile (stop : Char) (text : List Char) :
    stop ∉ text.takeWhile (· != stop) := by
  intro h
  simpa using List.mem_takeWhile_imp h

theorem eq_of_mem_head?_dropWhile (h : char ∈ (text.dropWhile (· != stop)).head?) :
    char = stop := by
  simpa using eq_false_of_mem_head?_dropWhile h

end SourceLexer
