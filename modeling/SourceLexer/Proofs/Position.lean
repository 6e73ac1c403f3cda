import SourceLexer.Cursor
import SourceLexer.Proofs.Stretch
import Mathlib.Data.List.Induction

/-!
# Positions are read off the text that has been passed

A cursor carries its line and column along and adds to them one character at a time.  What they
amount to is a matter of the passed text alone: `lineAfter` counts its line feeds, and
`columnAfter` counts the characters behind the last of them.

## What a cursor keeps

`Cursor.WellFormed` is the invariant of every cursor that starts at the front of a text.  Its line
and its column are those of the passed text, nothing that has been passed or that can still be
read is an end mark, and what lies beyond starts with one, if there is anything at all.

`Cursor.advance` keeps all of it, and so does any number of steps.
-/

namespace SourceLexer

/-- The line on which a text ends, counted from one. -/
def lineAfter (text : List Char) : Nat :=
  text.count '\n' + 1

/-- The column right behind a text, counted from one. -/
def columnAfter (text : List Char) : Nat :=
  (text.reverse.takeWhile (· != '\n')).length + 1

theorem lineAfter_append_singleton (text : List Char) (char : Char) :
    lineAfter (text ++ [char]) = if char = '\n' then lineAfter text + 1 else lineAfter text := by
  unfold lineAfter
  rw [List.count_append]
  by_cases h : char = '\n'
  · rw [h, if_pos rfl, List.count_singleton_self]
  · have hnone : [char].count '\n' = 0 :=
      List.count_eq_zero_of_not_mem (by simpa using Ne.symm h)
    rw [if_neg h, hnone, Nat.add_zero]

theorem columnAfter_append_singleton (text : List Char) (char : Char) :
    columnAfter (text ++ [char]) = if char = '\n' then 1 else columnAfter text + 1 := by
  unfold columnAfter
  rw [List.reverse_append, List.reverse_singleton, List.singleton_append]
  by_cases h : char = '\n'
  · rw [h, if_pos rfl, List.takeWhile_cons_of_neg (by decide), List.length_nil]
  · rw [if_neg h, List.takeWhile_cons_of_pos (by simpa using h), List.length_cons]

/-- Only the line feeds of the back of a text add lines to those of its front. -/
theorem lineAfter_append (front back : List Char) :
    lineAfter (front ++ back) = lineAfter front + back.count '\n' := by
  unfold lineAfter
  rw [List.count_append]
  omega

/-- The column behind a text is counted from its last line feed, wherever that is. -/
theorem columnAfter_append (front back : List Char) :
    columnAfter (front ++ back) =
      if '\n' ∈ back then columnAfter back else columnAfter front + back.length := by
  induction back using List.reverseRecOn with
  | nil => simp
  | append_singleton back char ih =>
    rw [← List.append_assoc, columnAfter_append_singleton, ih, columnAfter_append_singleton,
      List.length_append, List.length_singleton]
    by_cases hfeed : char = '\n'
    · simp [hfeed]
    · by_cases hback : '\n' ∈ back
      · simp [hfeed, hback]
      · have hnone : '\n' ∉ back ++ [char] := by
          simpa [hback] using Ne.symm hfeed
        rw [if_neg hback, if_neg hnone, if_neg hfeed, Nat.add_assoc]

/-- A text stays on its first line exactly as long as it has no line feed. -/
theorem lineAfter_eq_one_iff {text : List Char} : lineAfter text = 1 ↔ '\n' ∉ text := by
  unfold lineAfter
  rw [← List.count_eq_zero]
  omega

theorem columnAfter_of_notMem {text : List Char} (h : '\n' ∉ text) :
    columnAfter text = text.length + 1 := by
  have hempty : columnAfter ([] : List Char) = 1 := rfl
  have happend := columnAfter_append [] text
  rw [List.nil_append, if_neg h, hempty] at happend
  omega

/-- A line goes no further than a line feed. -/
theorem takeWhile_append_lineFeed (text rest : List Char) :
    (text ++ '\n' :: rest).takeWhile (· != '\n') = text.takeWhile (· != '\n') := by
  rw [List.takeWhile_append]
  split
  · next hall =>
    rw [List.takeWhile_cons_of_neg (by decide), List.append_nil]
    exact ((List.takeWhile_prefix _).eq_of_length hall).symm
  · rfl

namespace Cursor

/-- What every cursor that starts at the front of a text keeps to. -/
structure WellFormed (cursor : Cursor) : Prop where
  line_eq : cursor.line = lineAfter cursor.before.reverse
  column_eq : cursor.column = columnAfter cursor.before.reverse
  endMark_notMem_before : endMark ∉ cursor.before
  endMark_notMem_live : endMark ∉ cursor.live
  head?_beyond : ∀ char ∈ cursor.beyond.head?, char = endMark

/-- A text without an end mark is read to its end. -/
theorem live_ofText_of_notMem {text : List Char} (h : endMark ∉ text) :
    (ofText text).live = text :=
  List.takeWhile_eq_self_iff.2 (forall_bne_of_notMem h)

/-- So nothing of it lies beyond. -/
theorem beyond_ofText_of_notMem {text : List Char} (h : endMark ∉ text) :
    (ofText text).beyond = [] := by
  have hwhole := List.takeWhile_append_dropWhile (p := (· != endMark)) (l := text)
  have hlive : text.takeWhile (· != endMark) = text := live_ofText_of_notMem h
  rw [hlive] at hwhole
  exact List.append_right_eq_self.1 hwhole

theorem WellFormed.ofText (text : List Char) : (ofText text).WellFormed where
  line_eq := rfl
  column_eq := rfl
  endMark_notMem_before := List.not_mem_nil
  endMark_notMem_live := notMem_takeWhile endMark text
  head?_beyond _ := eq_of_mem_head?_dropWhile

/-- One step keeps a cursor well formed. -/
theorem WellFormed.advance {cursor : Cursor} (h : cursor.WellFormed) :
    cursor.advance.WellFormed := by
  unfold Cursor.advance
  split
  · exact h
  · next char live hlive =>
    have hmem : endMark ∉ char :: live := hlive ▸ h.endMark_notMem_live
    rw [List.mem_cons, not_or] at hmem
    refine ⟨?_, ?_, ?_, hmem.2, h.head?_beyond⟩
    · rw [List.reverse_cons, lineAfter_append_singleton, h.line_eq]
    · rw [List.reverse_cons, columnAfter_append_singleton, h.column_eq]
    · rw [List.mem_cons, not_or]
      exact ⟨hmem.1, h.endMark_notMem_before⟩

/-- Any number of steps keeps a cursor well formed. -/
theorem WellFormed.advanceBy {cursor : Cursor} (h : cursor.WellFormed) (count : Nat) :
    (cursor.advanceBy count).WellFormed := by
  induction count generalizing cursor with
  | zero => exact h
  | succ count ih => exact ih h.advance

theorem advance_of_nil {cursor : Cursor} (h : cursor.live = []) : cursor.advance = cursor := by
  unfold advance
  rw [h]

theorem before_advance_of_cons {cursor : Cursor} {char : Char} {live : List Char}
    (h : cursor.live = char :: live) : cursor.advance.before = char :: cursor.before := by
  unfold advance
  rw [h]

/-- What has been passed after some steps is what was passed before them and the front of the
live text. -/
theorem before_advanceBy (count : Nat) (cursor : Cursor) :
    (advanceBy count cursor).before = (cursor.live.take count).reverse ++ cursor.before := by
  induction count generalizing cursor with
  | zero => rfl
  | succ count ih =>
    rw [advanceBy, ih, live_advance]
    cases hlive : cursor.live with
    | nil => simp [advance_of_nil hlive]
    | cons char live => simp [before_advance_of_cons hlive]

/-- In the order of the text that is what was passed before, and the front. -/
theorem reverse_before_advanceBy (count : Nat) (cursor : Cursor) :
    (advanceBy count cursor).before.reverse
      = cursor.before.reverse ++ cursor.live.take count := by
  rw [before_advanceBy, List.reverse_append, List.reverse_reverse]

/-- Steps over the front of the live text pass exactly that front. -/
theorem reverse_before_of_live {cursor : Cursor} {front back : List Char}
    (h : cursor.live = front ++ back) :
    (advanceBy front.length cursor).before.reverse = cursor.before.reverse ++ front := by
  rw [reverse_before_advanceBy, h, List.take_left]

theorem beyond_advanceBy (count : Nat) (cursor : Cursor) :
    (advanceBy count cursor).beyond = cursor.beyond := by
  induction count generalizing cursor with
  | zero => rfl
  | succ count ih => rw [advanceBy, ih, beyond_advance]

/-- Steps are counted up to the end of the input and no further. -/
theorem index_advanceBy (count : Nat) (cursor : Cursor) :
    (advanceBy count cursor).index = cursor.index + min count cursor.live.length := by
  rw [index, before_advanceBy, List.length_append, List.length_reverse, List.length_take, index]
  omega

/-- What is passed on the way is no longer left to read. -/
theorem index_add_length_live_advanceBy (count : Nat) (cursor : Cursor) :
    (advanceBy count cursor).index + (advanceBy count cursor).live.length
      = cursor.index + cursor.live.length := by
  rw [index_advanceBy, live_advanceBy, List.length_drop]
  omega

/-- Steps add up. -/
theorem advanceBy_advanceBy (first second : Nat) (cursor : Cursor) :
    advanceBy second (advanceBy first cursor) = advanceBy (first + second) cursor := by
  induction first generalizing cursor with
  | zero => rw [Nat.zero_add]; rfl
  | succ first ih => rw [Nat.succ_add, advanceBy, advanceBy, ih]

/-! ## The source around a cursor -/

/-- What has not been passed is what can be read and what lies beyond. -/
theorem drop_index_source (cursor : Cursor) :
    cursor.source.drop cursor.index = cursor.live ++ cursor.beyond := by
  have hlength : cursor.before.reverse.length = cursor.index := List.length_reverse
  rw [source, List.append_assoc, ← hlength, List.drop_left]

/-- A text without an end mark goes up to the first end mark, if what lies beyond follows it. -/
theorem WellFormed.takeWhile_append_beyond {cursor : Cursor} (h : cursor.WellFormed)
    {text : List Char} (htext : endMark ∉ text) :
    (text ++ cursor.beyond).takeWhile (· != endMark) = text := by
  refine takeWhile_append_of_stop (forall_bne_of_notMem htext) ?_
  intro char hchar
  rw [h.head?_beyond char hchar]
  rfl

/-- Up to the first end mark the source is what has been passed and what can be read. -/
theorem WellFormed.takeWhile_source {cursor : Cursor} (h : cursor.WellFormed) :
    cursor.source.takeWhile (· != endMark) = cursor.before.reverse ++ cursor.live := by
  refine h.takeWhile_append_beyond ?_
  rw [List.mem_append, List.mem_reverse, not_or]
  exact ⟨h.endMark_notMem_before, h.endMark_notMem_live⟩

/-- What can be read is the rest of the source up to its first end mark. -/
theorem WellFormed.takeWhile_drop_source {cursor : Cursor} (h : cursor.WellFormed) :
    (cursor.source.drop cursor.index).takeWhile (· != endMark) = cursor.live := by
  rw [drop_index_source]
  exact h.takeWhile_append_beyond h.endMark_notMem_live

/-- The place of a cursor some steps on, read off the text. -/
theorem WellFormed.line_advanceBy {cursor : Cursor} (h : cursor.WellFormed) (count : Nat) :
    (cursor.advanceBy count).line
      = lineAfter (cursor.before.reverse ++ cursor.live.take count) := by
  have hformed := h.advanceBy count
  rw [hformed.line_eq, reverse_before_advanceBy]

theorem WellFormed.column_advanceBy {cursor : Cursor} (h : cursor.WellFormed) (count : Nat) :
    (cursor.advanceBy count).column
      = columnAfter (cursor.before.reverse ++ cursor.live.take count) := by
  have hformed := h.advanceBy count
  rw [hformed.column_eq, reverse_before_advanceBy]

end Cursor
end SourceLexer
