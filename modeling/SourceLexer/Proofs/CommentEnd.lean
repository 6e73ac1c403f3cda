import SourceLexer.Proofs.Extent
import SourceLexer.Proofs.Standing

/-!
# Where a comment ends

`Comment.Ending` says where a comment ends, from what follows its opening in the source.  A line
comment stops in front of a line feed or an end mark.  A block comment ends with the first closing
pair if no end mark comes before that; and if one does, or if there is no closing pair at all, it
stops at the end of the input.

## Searching and passing

Both are worked out here as they are done in a source that is not cut at its first end mark.
`Cursor.foreseesEnd` searches: it looks for a closing pair wherever one may stand, and then for an
end mark in front of it.  `Cursor.passComment` moves on, one character at a time, and never looks
further than at the next one.  Each of them comes to what the ending of the comment is, and to what
`Comment.closes` and `Comment.read` make of the text that is left to read.
-/

namespace SourceLexer

open Lexeme

namespace Lexeme
namespace Comment

/-! ## The first closing pair -/

/-- A body goes no further than through a closing pair, whichever it is. -/
theorem length_readBody_le (body rest : List Char) :
    (readBody (body ++ (closer ++ rest))).text.length ≤ body.length + 2 := by
  induction body with
  | nil => exact Nat.le_refl _
  | cons char body ih =>
    rw [List.cons_append, List.length_cons]
    by_cases hfront : closer <+: char :: (body ++ (closer ++ rest))
    · obtain ⟨more, hmore⟩ := hfront
      rw [← hmore]
      show 2 ≤ body.length + 1 + 2
      omega
    · rw [readBody_cons hfront, List.length_cons]
      omega

/-- What is found is a closing pair. -/
theorem exists_of_closerAt? {text : List Char} {distance : Nat}
    (h : closerAt? text = some distance) :
    ∃ body rest, text = body ++ (closer ++ rest) ∧ body.length = distance := by
  fun_induction closerAt? text generalizing distance with
  | case1 => cases h
  | case2 rest =>
    cases h
    exact ⟨[], rest, rfl, rfl⟩
  | case3 char text _ ih =>
    obtain ⟨further, hfurther, rfl⟩ := Option.map_eq_some_iff.1 h
    obtain ⟨body, rest, rfl, rfl⟩ := ih hfurther
    exact ⟨char :: body, rest, rfl, rfl⟩

/-- Where there is a closing pair one is found, and none further on than this one. -/
theorem exists_closerAt?_le (body rest : List Char) :
    ∃ distance ≤ body.length, closerAt? (body ++ (closer ++ rest)) = some distance := by
  induction body with
  | nil => exact ⟨0, Nat.le_refl 0, rfl⟩
  | cons char body ih =>
    obtain ⟨distance, hle, hfound⟩ := ih
    by_cases hfront : closer <+: char :: (body ++ (closer ++ rest))
    · obtain ⟨more, hmore⟩ := hfront
      refine ⟨0, Nat.zero_le _, ?_⟩
      rw [List.cons_append, ← hmore]
      rfl
    · refine ⟨distance + 1, Nat.succ_le_succ hle, ?_⟩
      rw [List.cons_append, closerAt?.eq_3, hfound]
      · rfl
      · rintro more rfl hmore
        exact hfront ⟨more, by rw [hmore]; rfl⟩

/-! ## Endings -/

/-- How a comment ends: whether it is closed, and how many characters it has behind its opening.
What follows the opening is given as it stands in the source. -/
inductive Ending : (style : Style) → (ahead : List Char) → (closed : Bool) → (length : Nat) → Prop
  where
  | line {body behind : List Char} : '\n' ∉ body → endMark ∉ body →
      (∀ next ∈ behind.head?, next = '\n' ∨ next = endMark) →
      Ending .line (body ++ behind) true body.length
  | closed {body behind : List Char} : endMark ∉ body →
      (∀ other rest, body ++ (closer ++ behind) = other ++ (closer ++ rest) →
        body.length ≤ other.length) →
      Ending .block (body ++ (closer ++ behind)) true (body.length + 2)
  | stopped {body behind : List Char} : endMark ∉ body →
      (∀ next ∈ behind.head?, next = endMark) →
      (∀ other rest, body ++ behind = other ++ (closer ++ rest) → endMark ∈ other) →
      Ending .block (body ++ behind) false body.length

/-- A comment that starts in the source starts in front of the first end mark. -/
theorem style?_of_append {style : Style} {live beyond : List Char}
    (hbeyond : ∀ next ∈ beyond.head?, next = endMark) (h : style? (live ++ beyond) = some style) :
    style? live = some style := by
  rcases eq_cons_of_style? h with ⟨rfl, rest, hrest⟩ | ⟨rfl, rest, hrest⟩
  · obtain ⟨more, rfl⟩ : ['/', '/'] <+: live :=
      isPrefix_of_endMark_notMem (by decide) hbeyond ⟨rest, hrest.symm⟩
    rfl
  · obtain ⟨more, rfl⟩ : ['/', '*'] <+: live :=
      isPrefix_of_endMark_notMem (by decide) hbeyond ⟨rest, hrest.symm⟩
    rfl

section

variable {body behind rest beyond : List Char}

/-- What a line comment goes up to is the end of its line, or of the input. -/
theorem Ending.of_line (hrest : endMark ∉ rest) (hbeyond : ∀ next ∈ beyond.head?, next = endMark) :
    Ending .line (rest ++ beyond) true (rest.takeWhile (· != '\n')).length := by
  have hahead : rest ++ beyond
      = rest.takeWhile (· != '\n') ++ (rest.dropWhile (· != '\n') ++ beyond) := by
    rw [← List.append_assoc, List.takeWhile_append_dropWhile]
  rw [hahead]
  refine .line (notMem_takeWhile '\n' rest)
    (fun h => hrest ((List.takeWhile_prefix _).subset h)) ?_
  intro next hnext
  rw [List.head?_append, Option.mem_def, Option.or_eq_some_iff] at hnext
  rcases hnext with hfeed | ⟨-, hend⟩
  · exact .inl (eq_of_mem_head?_dropWhile hfeed)
  · exact .inr (hbeyond next hend)

/-- A body without a closing pair goes up to the first one. -/
theorem Ending.of_closer (hmark : endMark ∉ body) (hbody : ¬ closer <:+: body)
    (behind : List Char) :
    Ending .block (body ++ (closer ++ behind)) true (body.length + 2) := by
  refine .closed hmark ?_
  intro other rest hsplit
  have hlonger := length_readBody_le other rest
  rw [← hsplit, ← List.append_assoc, readBody_append_closer hbody, List.length_append] at hlonger
  exact Nat.le_of_add_le_add_right hlonger

/-- Without an end mark in front of it a closing pair would stand in what can be read. -/
theorem Ending.of_no_closer (hrest : endMark ∉ rest)
    (hbeyond : ∀ next ∈ beyond.head?, next = endMark) (hnone : ¬ closer <:+: rest) :
    Ending .block (rest ++ beyond) false rest.length := by
  refine .stopped hrest hbeyond ?_
  intro other more hsplit
  by_contra hother
  have hpair : endMark ∉ other ++ closer := by
    rw [List.mem_append, not_or]
    exact ⟨hother, by decide⟩
  have hfront : other ++ closer <+: rest :=
    isPrefix_of_endMark_notMem hpair hbeyond ⟨more, by rw [hsplit, List.append_assoc]⟩
  exact hnone ((List.suffix_append other closer).isInfix.trans hfront.isInfix)

end

/-- A comment that is read in front of the first end mark ends so in the source. -/
theorem exists_ending {style : Style} {live beyond : List Char} (hstyle : style? live = some style)
    (hmark : endMark ∉ live) (hbeyond : ∀ next ∈ beyond.head?, next = endMark) :
    ∃ closed length, Ending style ((live ++ beyond).drop 2) closed length
      ∧ (read style live).closed = closed ∧ (read style live).text.length = length + 2 := by
  rcases eq_cons_of_style? hstyle with ⟨rfl, rest, rfl⟩ | ⟨rfl, rest, rfl⟩
  · have hrest : endMark ∉ rest := fun h => hmark (by simp [h])
    have hread : (read .line ('/' :: '/' :: rest)).text
        = '/' :: '/' :: rest.takeWhile (· != '\n') := by simp [read]
    exact ⟨true, _, .of_line hrest hbeyond, rfl, by rw [hread]; rfl⟩
  · have hrest : endMark ∉ rest := fun h => hmark (by simp [h])
    rw [read_block_eq]
    rcases exists_first_closer rest with ⟨body, behind, hbody, rfl⟩ | hnone
    · rw [readBody_append_closer hbody]
      refine ⟨true, body.length + 2, ?_, rfl, by simp [closer]⟩
      have hahead : ('/' :: '*' :: (body ++ closer ++ behind) ++ beyond).drop 2
          = body ++ (closer ++ (behind ++ beyond)) := by
        show body ++ closer ++ behind ++ beyond = _
        simp only [List.append_assoc]
      rw [hahead]
      exact .of_closer (fun h => hrest (by simp [h])) hbody _
    · rw [readBody_of_no_closer hnone]
      exact ⟨false, rest.length, .of_no_closer hrest hbeyond hnone, rfl, rfl⟩

/-! ### There is only one -/

/-- The closing pair in front of which there is no other is the one that is found. -/
theorem closerAt?_of_first {body behind : List Char}
    (hfirst : ∀ other rest, body ++ (closer ++ behind) = other ++ (closer ++ rest) →
      body.length ≤ other.length) :
    closerAt? (body ++ (closer ++ behind)) = some body.length := by
  obtain ⟨distance, hle, hfound⟩ := exists_closerAt?_le body behind
  obtain ⟨other, rest, hsplit, rfl⟩ := exists_of_closerAt? hfound
  rw [hfound, Nat.le_antisymm hle (hfirst other rest hsplit)]

namespace Ending

variable {style : Style} {ahead : List Char} {closed closed' : Bool} {length length' : Nat}

/-- The first closing pair, if there is one, and an end mark in front of it tell whether a block
comment is closed. -/
theorem closed_eq (h : Ending .block ahead closed length) :
    (match closerAt? ahead with
      | some distance => decide (endMark ∉ ahead.take distance)
      | none => false) = closed := by
  cases h with
  | closed hmark hfirst =>
    rw [closerAt?_of_first hfirst]
    simpa using hmark
  | @stopped body behind _ _ hmarked =>
    cases hfound : closerAt? (body ++ behind) with
    | none => rfl
    | some distance =>
      obtain ⟨other, rest, hsplit, rfl⟩ := exists_of_closerAt? hfound
      have hmark := hmarked other rest hsplit
      rw [hsplit]
      simpa using hmark

theorem length_eq_of_block (h : Ending .block ahead closed length) :
    length = if closed then (closerAt? ahead).getD 0 + 2
      else (ahead.takeWhile (· != endMark)).length := by
  cases h with
  | closed _ hfirst =>
    rw [closerAt?_of_first hfirst]
    rfl
  | @stopped body behind hmark hbehind _ =>
    rw [takeWhile_append_of_stop (forall_bne_of_notMem hmark) fun char hchar => by
      simp [hbehind char hchar]]
    rfl

theorem eq_of_line (h : Ending .line ahead closed length) :
    closed = true
      ∧ length = (ahead.takeWhile fun char => char != '\n' && char != endMark).length := by
  cases h with
  | @line body behind hfeed hmark hbehind =>
    have hbody : ∀ char ∈ body, (char != '\n' && char != endMark) = true := by
      intro char hchar
      rw [Bool.and_eq_true, bne_iff_ne, bne_iff_ne]
      exact ⟨fun h => hfeed (h ▸ hchar), fun h => hmark (h ▸ hchar)⟩
    refine ⟨rfl, ?_⟩
    rw [takeWhile_append_of_stop hbody]
    intro char hchar
    rcases hbehind char hchar with rfl | rfl <;> rfl

/-- A comment ends in one way only. -/
theorem unique (h : Ending style ahead closed length) (h' : Ending style ahead closed' length') :
    closed = closed' ∧ length = length' := by
  cases style with
  | line =>
    obtain ⟨rfl, rfl⟩ := h.eq_of_line
    obtain ⟨rfl, rfl⟩ := h'.eq_of_line
    exact ⟨rfl, rfl⟩
  | block =>
    obtain rfl : closed = closed' := h.closed_eq.symm.trans h'.closed_eq
    exact ⟨rfl, h.length_eq_of_block.trans h'.length_eq_of_block.symm⟩

end Ending

end Comment
end Lexeme

/-! ## Searching and passing with a cursor -/

namespace Cursor

/-- Whether the comment at the cursor comes to its end.  For a block comment a closing pair is
searched for in all that follows in the source, and then an end mark in front of the pair. -/
def foreseesEnd (cursor : Cursor) : Bool :=
  if cursor.peek 1 = '/' then true
  else
    let ahead := cursor.source.drop (cursor.index + 2)
    match Comment.closerAt? ahead with
    | some distance => endMark ∉ ahead.take distance
    | none => false

theorem length_live_advance_lt {cursor : Cursor} (h : cursor.current ≠ endMark) :
    cursor.advance.live.length < cursor.live.length := by
  rw [live_advance]
  unfold current at h
  cases hlive : cursor.live with
  | nil => exact absurd (by rw [hlive]; rfl) h
  | cons char live => simp

/-- The cursor in front of the next line feed, or at the end of the input. -/
def passLine (cursor : Cursor) : Cursor :=
  if _ : cursor.current = '\n' ∨ cursor.current = endMark then cursor
  else passLine cursor.advance
  termination_by cursor.live.length
  decreasing_by exact length_live_advance_lt (not_or.1 ‹_›).2

/-- The cursor behind the next closing pair, or at the end of the input, and whether the pair has
been found. -/
def passBody (cursor : Cursor) : Bool × Cursor :=
  if _ : cursor.current = endMark then (false, cursor)
  else if cursor.current = '*' ∧ cursor.peek 1 = '/' then (true, cursor.advance.advance)
  else passBody cursor.advance
  termination_by cursor.live.length
  decreasing_by exact length_live_advance_lt ‹_›

/-- The cursor behind the comment, and whether the comment has come to its end. -/
def passComment (cursor : Cursor) : Bool × Cursor :=
  let second := cursor.advance
  if second.current = '/' then (true, second.passLine) else second.advance.passBody

section

variable {cursor : Cursor} {char : Char} {rest : List Char}

theorem current_of_cons (h : cursor.live = char :: rest) : cursor.current = char := by
  rw [current, h]
  rfl

theorem live_advance_of_cons (h : cursor.live = char :: rest) : cursor.advance.live = rest := by
  rw [live_advance, h]
  rfl

theorem WellFormed.ne_endMark (hformed : cursor.WellFormed) (h : cursor.live = char :: rest) :
    char ≠ endMark := by
  rintro rfl
  exact hformed.endMark_notMem_live (by rw [h]; exact List.mem_cons_self)

/-- To peek at the next character is to look at the one to be read there, if there is one. -/
theorem WellFormed.peek_one (hformed : cursor.WellFormed) (h : cursor.live = char :: rest) :
    cursor.peek 1 = rest.headD endMark := by
  have hmark : endMark ∉ (cursor.source.drop cursor.index).take 1 := by
    rw [drop_index_source, h]
    simpa using (hformed.ne_endMark h).symm
  have hpeek := hformed.peek_eq_current_advanceBy hmark
  rw [current, live_advanceBy, h] at hpeek
  exact hpeek

/-- Passing a line goes over what stands in front of the line feed. -/
theorem passLine_eq (hformed : cursor.WellFormed) :
    cursor.passLine = cursor.advanceBy (cursor.live.takeWhile (· != '\n')).length := by
  generalize hlive : cursor.live = text
  induction text generalizing cursor with
  | nil =>
    have hcurrent : cursor.current = endMark := by rw [current, hlive]; rfl
    rw [passLine, dif_pos (.inr hcurrent)]
    rfl
  | cons char rest ih =>
    have hcurrent := current_of_cons hlive
    by_cases hfeed : char = '\n'
    · rw [passLine, dif_pos (.inl (hcurrent.trans hfeed)),
        List.takeWhile_cons_of_neg (by simp [hfeed])]
      rfl
    · have hgoes : ¬ (cursor.current = '\n' ∨ cursor.current = endMark) := by
        rw [hcurrent, not_or]
        exact ⟨hfeed, hformed.ne_endMark hlive⟩
      rw [passLine, dif_neg hgoes, ih hformed.advance (live_advance_of_cons hlive),
        List.takeWhile_cons_of_pos (by simpa using hfeed), List.length_cons, advanceBy]

/-- Passing a body goes over what is read of it, and finds the pair if the reader does. -/
theorem passBody_eq (hformed : cursor.WellFormed) :
    cursor.passBody = ((Comment.readBody cursor.live).closed,
      cursor.advanceBy (Comment.readBody cursor.live).text.length) := by
  generalize hlive : cursor.live = text
  induction text generalizing cursor with
  | nil =>
    have hcurrent : cursor.current = endMark := by rw [current, hlive]; rfl
    rw [passBody, dif_pos hcurrent]
    rfl
  | cons char rest ih =>
    have hcurrent := current_of_cons hlive
    have hgoes : cursor.current ≠ endMark := hcurrent ▸ hformed.ne_endMark hlive
    have hpeek := hformed.peek_one hlive
    rw [passBody, dif_neg hgoes, hcurrent, hpeek]
    by_cases hfront : Comment.closer <+: char :: rest
    · obtain ⟨more, hmore⟩ := hfront
      obtain ⟨rfl, rfl⟩ := List.cons.inj hmore
      exact if_pos ⟨rfl, rfl⟩
    · have hnone : ¬ (char = '*' ∧ rest.headD endMark = '/') := by
        rintro ⟨rfl, hslash⟩
        cases rest with
        | nil => exact absurd hslash (by decide)
        | cons second rest =>
          obtain rfl : second = '/' := hslash
          exact hfront ⟨rest, rfl⟩
      rw [if_neg hnone, ih hformed.advance (live_advance_of_cons hlive),
        Comment.readBody_cons hfront, List.length_cons, advanceBy]

variable {style : Comment.Style}

/-- Passing a comment goes over what is read of it, and comes to its end if the reader does. -/
theorem passComment_eq (hformed : cursor.WellFormed)
    (hstyle : Comment.style? cursor.live = some style) :
    cursor.passComment = ((Comment.read style cursor.live).closed,
      cursor.advanceBy (Comment.read style cursor.live).text.length) := by
  rcases Comment.eq_cons_of_style? hstyle with ⟨rfl, rest, hlive⟩ | ⟨rfl, rest, hlive⟩
  · have hsecond := live_advance_of_cons hlive
    rw [passComment, if_pos (current_of_cons hsecond), passLine_eq hformed.advance, hsecond, hlive]
    rfl
  · have hsecond := live_advance_of_cons hlive
    have hstar : cursor.advance.current ≠ '/' := by
      rw [current_of_cons hsecond]
      decide
    rw [passComment, if_neg hstar, passBody_eq hformed.advance.advance,
      live_advance_of_cons hsecond, hlive]
    rfl

/-- Searching finds out how the comment ends. -/
theorem foreseesEnd_eq (hformed : cursor.WellFormed)
    (hstyle : Comment.style? cursor.live = some style) {closed : Bool} {length : Nat}
    (h : Comment.Ending style (cursor.source.drop (cursor.index + 2)) closed length) :
    cursor.foreseesEnd = closed := by
  rcases Comment.eq_cons_of_style? hstyle with ⟨rfl, rest, hlive⟩ | ⟨rfl, rest, hlive⟩
  · have hpeek : cursor.peek 1 = '/' := hformed.peek_one hlive
    rw [foreseesEnd, if_pos hpeek]
    generalize cursor.source.drop (cursor.index + 2) = ahead at h
    cases h
    rfl
  · have hpeek : cursor.peek 1 = '*' := hformed.peek_one hlive
    rw [foreseesEnd, hpeek, if_neg (by decide)]
    exact h.closed_eq

end

end Cursor

namespace Lexer

variable {lexer : Lexer}

/-- **Looking ahead and passing agree on where a comment ends.**  Wherever calls have left a lexer
in front of a comment, this comment ends in one way in the source.  Searching the source for its
end and passing it character by character tell whether it is closed, the look-ahead and the reader
on the text that is left to read tell the same, and passing it leads to where it ends. -/
theorem passComment_ends_as_foreseen {source : String} (h : Reached source.toList lexer)
    {style : Comment.Style}
    (hstyle : Comment.style? (source.toList.drop lexer.cursor.index) = some style) :
    (∃ closed length,
        Comment.Ending style (source.toList.drop (lexer.cursor.index + 2)) closed length)
      ∧ ∀ closed length,
        Comment.Ending style (source.toList.drop (lexer.cursor.index + 2)) closed length →
          lexer.cursor.foreseesEnd = closed
            ∧ lexer.cursor.passComment = (closed, lexer.cursor.advanceBy (length + 2))
            ∧ lexer.cursor.passComment.2.index = lexer.cursor.index + 2 + length
            ∧ Comment.closes lexer.cursor.live = closed
            ∧ Comment.read style lexer.cursor.live
                = ⟨lexer.cursor.live.take (length + 2), closed⟩ := by
  have hformed := h.wellFormed
  have hrest : source.toList.drop lexer.cursor.index
      = lexer.cursor.live ++ lexer.cursor.beyond := by
    rw [← h.source_eq, Cursor.drop_index_source]
  rw [hrest] at hstyle
  have hlive := Comment.style?_of_append hformed.head?_beyond hstyle
  obtain ⟨closed, length, hending, hclosed, hlength⟩ :=
    Comment.exists_ending hlive hformed.endMark_notMem_live hformed.head?_beyond
  rw [← hrest, List.drop_drop] at hending
  have hfront := Comment.read_isPrefix_self style lexer.cursor.live
  have hpass := Cursor.passComment_eq hformed hlive
  rw [hclosed, hlength] at hpass
  refine ⟨⟨closed, length, hending⟩, ?_⟩
  intro closed' length' hending'
  obtain ⟨rfl, rfl⟩ := hending.unique hending'
  refine ⟨?_, hpass, ?_, ?_, ?_⟩
  · rw [← h.source_eq] at hending
    exact Cursor.foreseesEnd_eq hformed hlive hending
  · rw [hpass, Cursor.index_advanceBy, Nat.min_eq_left (hlength ▸ hfront.length_le)]
    omega
  · rw [Comment.closes_eq_closed hlive, hclosed]
  · rw [← hclosed, ← hlength, ← List.prefix_iff_eq_take.1 hfront]

/-- Behind a report: a comment that would close behind the end mark, and one whose opening is
followed by a slash. -/
theorem passComment_ends_as_foreseen_past_slash :
    (∃ lexer, Reached "#/*/*\x00*/".toList lexer ∧ lexer.cursor.index = 1
        ∧ Comment.style? ("#/*/*\x00*/".toList.drop 1) = some .block
        ∧ Comment.Ending .block ("#/*/*\x00*/".toList.drop 3) false 2
        ∧ lexer.cursor.foreseesEnd = false ∧ lexer.cursor.passComment.1 = false
        ∧ lexer.cursor.passComment.2.index = 5)
      ∧ ∃ lexer, Reached "#/*/**//".toList lexer ∧ lexer.cursor.index = 1
        ∧ Comment.style? ("#/*/**//".toList.drop 1) = some .block
        ∧ Comment.Ending .block ("#/*/**//".toList.drop 3) true 4
        ∧ lexer.cursor.foreseesEnd = true ∧ lexer.cursor.passComment.1 = true
        ∧ lexer.cursor.passComment.2.index = 7 := by
  constructor
  · obtain ⟨before, lexer, hbefore, hskip, hindex⟩ :=
      exists_start "#/*/*\x00*/".toList { strict := true } 1 (by decide +kernel)
    have h := hbefore.of_skipBlanks hskip
    have hstyle : Comment.style? ("#/*/*\x00*/".toList.drop 1) = some .block := by decide +kernel
    obtain ⟨closed, length, hending, hclosed, hlength⟩ :=
      @Comment.exists_ending .block "/*/*".toList "\x00*/".toList (by decide +kernel)
        (by decide +kernel) (fun next hnext => (Option.some.inj hnext).symm)
    obtain rfl : closed = false := hclosed.symm.trans (by decide)
    obtain rfl : length = 2 := Nat.add_right_cancel (hlength.symm.trans (by decide))
    obtain ⟨-, hends⟩ := passComment_ends_as_foreseen h (hindex ▸ hstyle)
    obtain ⟨hforesees, hpass, hplace, -⟩ := hends false 2 (hindex ▸ hending)
    exact ⟨lexer, h, hindex, hstyle, hending, hforesees, by rw [hpass], by rw [hplace, hindex]⟩
  · obtain ⟨before, lexer, hbefore, hskip, hindex⟩ :=
      exists_start "#/*/**//".toList { strict := true, keepComments := true } 1 (by decide +kernel)
    have h := hbefore.of_skipBlanks hskip
    have hstyle : Comment.style? ("#/*/**//".toList.drop 1) = some .block := by decide +kernel
    obtain ⟨closed, length, hending, hclosed, hlength⟩ :=
      @Comment.exists_ending .block "/*/**//".toList [] (by decide +kernel) (by decide +kernel)
        nofun
    obtain rfl : closed = true := hclosed.symm.trans (by decide)
    obtain rfl : length = 4 := Nat.add_right_cancel (hlength.symm.trans (by decide))
    obtain ⟨-, hends⟩ := passComment_ends_as_foreseen h (hindex ▸ hstyle)
    obtain ⟨hforesees, hpass, hplace, -⟩ := hends true 4 (hindex ▸ hending)
    exact ⟨lexer, h, hindex, hstyle, hending, hforesees, by rw [hpass], by rw [hplace, hindex]⟩

end Lexer
end SourceLexer
