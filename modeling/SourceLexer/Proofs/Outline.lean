import SourceLexer.Proofs.Gap

/-!
# The outline of a text

Where lexemes start in a text, and what is read there, does not depend on positions, names or
collectors.  `outline` is that part of a run: a list of readings with the distance at which each
of them starts, the last of which is the end of the input.

Whether comments are wanted may change from call to call, so an outline is taken under a
*schedule*, which has an answer for every call.

## Taking an outline apart

`Piece` is one step: a gap, a lexeme behind it, and the text behind both.  `outline_gap` and
`outline_piece` are the two equations, and `outline_induction` is the induction that goes with
them.  It is an induction on the texts themselves; the recursion that `outline` is defined by is
not needed again.
-/

namespace SourceLexer
namespace Lexeme

/-- A reading, and the distance at which it starts. -/
structure Found where
  start : Nat
  reading : Reading
  deriving DecidableEq, Repr

/-- The same reading with so much more in front of it. -/
def Found.shift (distance : Nat) (found : Found) : Found :=
  { found with start := distance + found.start }

/-- The schedule from the next call on. -/
def later (keep : Nat → Bool) : Nat → Bool :=
  fun call => keep (call + 1)

/-- The schedule that never changes. -/
def always (keepComments : Bool) : Nat → Bool :=
  fun _ => keepComments

/-- The readings of a text, up to the end of the input. -/
def outline (keep : Nat → Bool) (text : List Char) : List Found :=
  let gap := (blanks (keep 0) text).length
  match _ : text.drop gap with
  | [] => [⟨gap, .endOfInput⟩]
  | char :: rest =>
    let reading := Reading.read (char :: rest)
    let taken := reading.text.length
    ⟨gap, reading⟩
      :: (outline (later keep) (rest.drop (taken - 1))).map (Found.shift (gap + taken))
  termination_by text.length
  decreasing_by
    have hlength := congrArg List.length ‹text.drop _ = _›
    simp only [List.length_drop, List.length_cons] at hlength ⊢
    omega

/-- A gap, the lexeme behind it, and the text behind both. -/
structure Piece (keepComments : Bool) (gap : List Char) (reading : Reading)
    (behind : List Char) : Prop where
  isGap : Gap keepComments gap (reading.text ++ behind)
  blanks_eq_nil : blanks keepComments (reading.text ++ behind) = []
  read_eq : Reading.read (reading.text ++ behind) = reading
  text_ne_nil : reading.text ≠ []

/-- A piece is not the end of the input. -/
theorem Piece.kind_ne_endOfInput {keepComments : Bool} {gap behind : List Char}
    {reading : Reading} (h : Piece keepComments gap reading behind) :
    reading.kind ≠ .endOfInput := by
  have hne := h.text_ne_nil
  rw [← h.read_eq] at hne ⊢
  exact Reading.kind_read_ne_endOfInput hne

/-! ## The two equations -/

/-- A gap at the end of the input holds nothing to be found. -/
theorem outline_gap {keep : Nat → Bool} {gap : List Char} (h : Gap (keep 0) gap []) :
    outline keep gap = [⟨gap.length, .endOfInput⟩] := by
  have hblanks := blanks_eq_self_of_gap h
  rw [outline]
  split
  · rw [hblanks]
  · next char rest hdrop => simp [hblanks] at hdrop

/-- A piece is found first, and what is behind it is found further on. -/
theorem outline_piece {keep : Nat → Bool} {gap behind : List Char} {reading : Reading}
    (h : Piece (keep 0) gap reading behind) :
    outline keep (gap ++ (reading.text ++ behind)) =
      ⟨gap.length, reading⟩ :: (outline (later keep) behind).map
        (Found.shift (gap.length + reading.text.length)) := by
  have hblanks := blanks_eq_of_gap h.isGap h.blanks_eq_nil
  obtain ⟨char, taken, htext⟩ := List.exists_cons_of_ne_nil h.text_ne_nil
  rw [outline]
  split
  · next hdrop =>
    rw [hblanks, List.drop_left, List.append_eq_nil_iff] at hdrop
    exact absurd hdrop.1 h.text_ne_nil
  · next first rest hdrop =>
    rw [hblanks, List.drop_left] at hdrop
    have hrest : rest = taken ++ behind := by
      rw [htext, List.cons_append] at hdrop
      exact (List.cons.inj hdrop).2.symm
    have hbehind : rest.drop (reading.text.length - 1) = behind := by
      rw [htext, hrest, List.length_cons, Nat.add_sub_cancel, List.drop_left]
    rw [← hdrop, hblanks, h.read_eq]
    show _ :: (outline (later keep) (rest.drop (reading.text.length - 1))).map _ = _
    rw [hbehind]

/-- The first equation under a schedule that never changes. -/
theorem outline_always_gap {keepComments : Bool} {gap : List Char}
    (h : Gap keepComments gap []) :
    outline (always keepComments) gap = [⟨gap.length, .endOfInput⟩] :=
  outline_gap h

/-- The second equation under a schedule that never changes. -/
theorem outline_always_piece {keepComments : Bool} {gap behind : List Char} {reading : Reading}
    (h : Piece keepComments gap reading behind) :
    outline (always keepComments) (gap ++ (reading.text ++ behind)) =
      ⟨gap.length, reading⟩ :: (outline (always keepComments) behind).map
        (Found.shift (gap.length + reading.text.length)) :=
  outline_piece h

/-- Every text is a gap, or a piece that leaves less text behind. -/
theorem exists_piece (keepComments : Bool) (text : List Char) :
    Gap keepComments text [] ∨ ∃ gap reading behind, Piece keepComments gap reading behind
      ∧ text = gap ++ (reading.text ++ behind) := by
  obtain ⟨gap, rest, rfl, hgap, hstop⟩ := exists_gap keepComments text
  cases rest with
  | nil => exact .inl (by rwa [List.append_nil])
  | cons char rest =>
    obtain ⟨behind, hbehind⟩ := Reading.text_read_isPrefix_self (char :: rest)
    have hpos := Reading.length_text_read_pos char rest
    refine .inr ⟨gap, Reading.read (char :: rest), behind, ⟨?_, ?_, ?_, ?_⟩, by rw [hbehind]⟩
    · rwa [hbehind]
    · rwa [hbehind]
    · rw [hbehind]
    · exact List.ne_nil_of_length_pos hpos

/-- What holds of gaps, and of a text if it holds behind its first piece, holds of every text. -/
theorem outline_induction {motive : (Nat → Bool) → List Char → Prop}
    (gap : ∀ keep gap, Gap (keep 0) gap [] → motive keep gap)
    (piece : ∀ keep gap reading behind, Piece (keep 0) gap reading behind →
      motive (later keep) behind → motive keep (gap ++ (reading.text ++ behind)))
    (keep : Nat → Bool) (text : List Char) : motive keep text := by
  induction hlength : text.length using Nat.strong_induction_on generalizing keep text with
  | _ length ih =>
    subst hlength
    rcases exists_piece (keep 0) text with hgap | ⟨found, reading, behind, hpiece, rfl⟩
    · exact gap keep text hgap
    · refine piece keep found reading behind hpiece (ih behind.length ?_ _ behind rfl)
      have hpos := List.length_pos_of_ne_nil hpiece.text_ne_nil
      rw [List.length_append, List.length_append]
      omega

/-- The same induction under a schedule that never changes. -/
theorem outline_induction_always (keepComments : Bool) {motive : List Char → Prop}
    (gap : ∀ gap, Gap keepComments gap [] → motive gap)
    (piece : ∀ gap reading behind, Piece keepComments gap reading behind → motive behind →
      motive (gap ++ (reading.text ++ behind)))
    (text : List Char) : motive text := by
  refine outline_induction (motive := fun keep text => keep = always keepComments → motive text)
    ?_ ?_ (always keepComments) text rfl
  · rintro keep found hgap rfl
    exact gap found hgap
  · rintro keep found reading behind hpiece ih rfl
    exact piece found reading behind hpiece (ih rfl)

/-! ## What is in an outline -/

theorem Found.shift_shift (first second : Nat) (found : Found) :
    (found.shift second).shift first = found.shift (first + second) := by
  rw [shift, shift, shift, Nat.add_assoc]

/-- Everything that is found has been read somewhere. -/
theorem exists_read_of_mem_outline {keep : Nat → Bool} {text : List Char} {found : Found}
    (h : found ∈ outline keep text) : ∃ rest, found.reading = Reading.read rest := by
  induction keep, text using outline_induction generalizing found with
  | gap keep gap hgap =>
    rw [outline_gap hgap, List.mem_singleton] at h
    exact ⟨[], by rw [h, Reading.read_nil]⟩
  | piece keep gap reading behind hpiece ih =>
    rw [outline_piece hpiece, List.mem_cons, List.mem_map] at h
    rcases h with rfl | ⟨further, hfurther, rfl⟩
    · exact ⟨_, hpiece.read_eq.symm⟩
    · obtain ⟨rest, hrest⟩ := ih hfurther
      exact ⟨rest, hrest⟩

/-- A gap in front of a text only moves what is found in the text. -/
theorem outline_gap_append {keep : Nat → Bool} {gap text : List Char} (h : Gap (keep 0) gap text) :
    outline keep (gap ++ text) = (outline keep text).map (Found.shift gap.length) := by
  rcases exists_piece (keep 0) text with htext | ⟨second, reading, behind, hpiece, rfl⟩
  · have hall : Gap (keep 0) (gap ++ text) [] := Gap.append (by rwa [List.append_nil]) htext
    rw [outline_gap hall, outline_gap htext, List.length_append]
    rfl
  · have hwhole : Piece (keep 0) (gap ++ second) reading behind :=
      { hpiece with isGap := h.append hpiece.isGap }
    rw [← List.append_assoc, outline_piece hwhole, outline_piece hpiece, List.map_cons,
      List.map_map, List.length_append]
    congr 1
    refine List.map_congr_left ?_
    intro found _
    rw [Function.comp_apply, Found.shift_shift, Nat.add_assoc]

/-! ## Comments among the pieces -/

/-- Where comments are passed over no piece is one. -/
theorem Piece.kind_ne_comment {keepComments : Bool} {gap behind : List Char} {reading : Reading}
    (h : Piece keepComments gap reading behind) (hkeep : keepComments = false) :
    reading.kind ≠ .comment := by
  have hblanks := h.blanks_eq_nil
  have hread := h.read_eq
  obtain ⟨char, taken, htext⟩ := List.exists_cons_of_ne_nil h.text_ne_nil
  rw [htext, List.cons_append] at hblanks hread
  rw [← hread]
  exact (blanks_eq_nil_iff.1 hblanks).2 hkeep

/-- A piece that is a comment is a complete one. -/
theorem Piece.complete {keepComments : Bool} {gap behind : List Char} {reading : Reading}
    (h : Piece keepComments gap reading behind) (hkind : reading.kind = .comment) :
    Comment.Complete reading.text behind := by
  rw [← h.read_eq] at hkind
  obtain ⟨comment, rest, htext, hcomplete⟩ := Reading.complete_of_kind hkind
  have hread := h.read_eq
  rw [htext, Reading.read_of_complete hcomplete] at hread
  subst hread
  obtain rfl : behind = rest := List.append_cancel_left htext
  exact hcomplete

/-! ## Pieces of other texts -/

/-- A lexeme can be moved between other texts if it is read there as well. -/
theorem Piece.relocate {kept keepComments : Bool} {gap gap' behind behind' : List Char}
    {reading : Reading} (h : Piece kept gap reading behind)
    (hkind : keepComments = false → reading.kind ≠ .comment)
    (hgap : Gap keepComments gap' (reading.text ++ behind'))
    (hread : Reading.read (reading.text ++ behind') = reading) :
    Piece keepComments gap' reading behind' where
  isGap := hgap
  blanks_eq_nil := by
    have hblanks := h.blanks_eq_nil
    have hread' := hread
    obtain ⟨char, taken, htext⟩ := List.exists_cons_of_ne_nil h.text_ne_nil
    rw [htext, List.cons_append] at hblanks hread' ⊢
    rw [blanks_eq_nil_iff, hread']
    exact ⟨(blanks_eq_nil_iff.1 hblanks).1, hkind⟩
  read_eq := hread
  text_ne_nil := h.text_ne_nil

/-- A piece that is no comment is a piece as well where comments are passed over. -/
theorem Piece.of_ne_comment {keepComments : Bool} {gap behind : List Char} {reading : Reading}
    (h : Piece keepComments gap reading behind) (hkind : reading.kind ≠ .comment) :
    Piece false gap reading behind :=
  h.relocate (fun _ => hkind) h.isGap.of_keepComments h.read_eq

end Lexeme
end SourceLexer
