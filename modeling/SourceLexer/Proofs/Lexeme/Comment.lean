import SourceLexer.Lexeme.Comment
import SourceLexer.Proofs.Stretch
import Mathlib.Data.List.Infix

/-!
# Which comments are complete

`Comment.Complete` says without any reading what a complete comment is.  A line comment holds no
line feed and reaches up to one, or to the end of the text.  A block comment holds no closing pair
before its own.  What stands behind a comment matters for a line comment, so it is part of the
relation.

## Reading and looking ahead

`read_of_complete` and `complete_of_closed` say that the reader finds exactly the complete
comments.  What it leaves open is a block comment without a closing pair, and that one takes all of
the text (`eq_block_of_open`).  `closes_eq_closed` says that looking ahead for the closing pair
comes to the same as reading.
-/

namespace SourceLexer
namespace Lexeme
namespace Comment

/-- The pair of characters that ends a block comment. -/
def closer : List Char := ['*', '/']

/-- A complete comment in front of some text. -/
inductive Complete : (comment behind : List Char) → Prop where
  | line {body behind : List Char} : '\n' ∉ body → (∀ char ∈ behind.head?, char = '\n') →
      Complete ('/' :: '/' :: body) behind
  | block {body behind : List Char} : ¬ closer <:+: body →
      Complete ('/' :: '*' :: (body ++ closer)) behind

/-! ## The body of a block comment -/

/-- A body goes on past every character at which no closing pair starts. -/
theorem readBody_cons {char : Char} {rest : List Char} (h : ¬ closer <+: char :: rest) :
    readBody (char :: rest) = ⟨char :: (readBody rest).text, (readBody rest).closed⟩ := by
  rw [readBody.eq_3]
  rintro more rfl rfl
  exact h ⟨more, rfl⟩

/-- A body goes up to the first closing pair. -/
theorem readBody_append_closer {body : List Char} (h : ¬ closer <:+: body) (rest : List Char) :
    readBody (body ++ closer ++ rest) = ⟨body ++ closer, true⟩ := by
  induction body with
  | nil => rfl
  | cons char body ih =>
    have hbody : ¬ closer <:+: body :=
      fun hin => h (hin.trans (List.suffix_cons char body).isInfix)
    have hfront : ¬ closer <+: char :: (body ++ closer ++ rest) := by
      rintro ⟨more, hmore⟩
      -- the pair would have to start at `char`, and its slash would come from the body
      cases body with
      | nil => simp [closer] at hmore
      | cons second body =>
        obtain ⟨rfl, rfl, -⟩ : '*' = char ∧ '/' = second ∧ _ := by simpa [closer] using hmore
        exact h ⟨[], body, rfl⟩
    rw [List.cons_append, List.cons_append, readBody_cons hfront, ih hbody]

/-- Without a closing pair the body is all of the text. -/
theorem readBody_of_no_closer {text : List Char} (h : ¬ closer <:+: text) :
    readBody text = ⟨text, false⟩ := by
  induction text with
  | nil => rfl
  | cons char rest ih =>
    rw [readBody_cons fun hfront => h hfront.isInfix,
      ih fun hin => h (hin.trans (List.suffix_cons char rest).isInfix)]

/-- A text either has a first closing pair or none at all. -/
theorem exists_first_closer (text : List Char) :
    (∃ body rest, ¬ closer <:+: body ∧ text = body ++ closer ++ rest) ∨ ¬ closer <:+: text := by
  induction text with
  | nil => exact .inr (by simp [closer])
  | cons char text ih =>
    by_cases hfront : closer <+: char :: text
    · obtain ⟨rest, hrest⟩ := hfront
      exact .inl ⟨[], rest, by simp [closer], hrest.symm⟩
    · rcases ih with ⟨body, rest, hbody, rfl⟩ | hnone
      · refine .inl ⟨char :: body, rest, ?_, rfl⟩
        rw [List.infix_cons_iff, not_or]
        refine ⟨fun h => hfront (h.trans ?_), hbody⟩
        rw [List.prefix_cons_inj]
        exact (List.prefix_append _ _).trans (List.prefix_append _ _)
      · exact .inr (by rw [List.infix_cons_iff, not_or]; exact ⟨hfront, hnone⟩)

/-- Looking for a closing pair and reading up to one find it in the same texts. -/
theorem isSome_closerAt? (text : List Char) :
    (closerAt? text).isSome = (readBody text).closed := by
  fun_induction closerAt? text with
  | case1 => rfl
  | case2 rest => rfl
  | case3 char rest hfront ih =>
    rw [Option.isSome_map, ih, readBody.eq_3 _ _ hfront]

/-! ## Reading a comment -/

/-- Looking ahead and reading agree on whether a comment comes to its end. -/
theorem closes_eq_closed {style : Style} {text : List Char} (h : style? text = some style) :
    closes text = (read style text).closed := by
  unfold closes
  rw [h]
  cases style with
  | line => rfl
  | block => exact isSome_closerAt? _

theorem style?_cons_cons (first second : Char) (rest : List Char) :
    style? (first :: second :: rest) =
      if first = '/' ∧ second = '/' then some .line
      else if first = '/' ∧ second = '*' then some .block else none := by
  by_cases hfirst : first = '/'
  · subst hfirst
    by_cases hline : second = '/'
    · subst hline
      rfl
    · by_cases hblock : second = '*'
      · subst hblock
        rfl
      · simp [style?, hline, hblock]
  · simp [style?, hfirst]

/-- A character in front of a line feed starts no comment. -/
theorem style?_append_lineFeed (char : Char) (text rest : List Char) :
    style? (char :: (text ++ '\n' :: rest)) = style? (char :: text) := by
  cases text with
  | nil => simp [style?]
  | cons second text => rw [List.cons_append, style?_cons_cons, style?_cons_cons]

/-- The two beginnings of a comment. -/
theorem eq_cons_of_style? {style : Style} {text : List Char} (h : style? text = some style) :
    (style = .line ∧ ∃ rest, text = '/' :: '/' :: rest)
      ∨ (style = .block ∧ ∃ rest, text = '/' :: '*' :: rest) := by
  unfold style? at h
  split at h
  · next rest => cases h; exact .inl ⟨rfl, rest, rfl⟩
  · next rest => cases h; exact .inr ⟨rfl, rest, rfl⟩
  · cases h

theorem read_block_eq (rest : List Char) :
    read .block ('/' :: '*' :: rest)
      = ⟨'/' :: '*' :: (readBody rest).text, (readBody rest).closed⟩ := rfl

/-- A complete comment is read as it stands. -/
theorem read_of_complete {comment behind : List Char} (h : Complete comment behind) :
    ∃ style, style? (comment ++ behind) = some style
      ∧ read style (comment ++ behind) = ⟨comment, true⟩ := by
  cases h with
  | @line body _ hbody hbehind =>
    refine ⟨.line, rfl, ?_⟩
    have hinside : '\n' ∉ '/' :: '/' :: body := by simp [hbody]
    have htaken : (('/' :: '/' :: body) ++ behind).takeWhile (· != '\n') = '/' :: '/' :: body :=
      takeWhile_append_of_stop (forall_bne_of_notMem hinside) fun char hchar => by
        simp [hbehind char hchar]
    rw [read, htaken]
  | @block body _ hbody =>
    refine ⟨.block, rfl, ?_⟩
    rw [List.cons_append, List.cons_append, read_block_eq, readBody_append_closer hbody]

/-- What is read to its end is a complete comment. -/
theorem complete_of_closed {style : Style} {text : List Char} (hstyle : style? text = some style)
    (hclosed : (read style text).closed = true) :
    ∃ behind, text = (read style text).text ++ behind
      ∧ Complete (read style text).text behind := by
  rcases eq_cons_of_style? hstyle with ⟨rfl, rest, rfl⟩ | ⟨rfl, rest, rfl⟩
  · refine ⟨rest.dropWhile (· != '\n'), ?_, ?_⟩
    · simp [read, List.takeWhile_append_dropWhile]
    · have hread : (read .line ('/' :: '/' :: rest)).text
          = '/' :: '/' :: rest.takeWhile (· != '\n') := by simp [read]
      rw [hread]
      exact .line (notMem_takeWhile '\n' rest) fun _ => eq_of_mem_head?_dropWhile
  · rcases exists_first_closer rest with ⟨body, behind, hbody, rfl⟩ | hnone
    · refine ⟨behind, ?_, ?_⟩
      · rw [read_block_eq, readBody_append_closer hbody]
        simp
      · rw [read_block_eq, readBody_append_closer hbody]
        exact .block hbody
    · rw [read_block_eq, readBody_of_no_closer hnone] at hclosed
      cases hclosed

/-- What is left open is a block comment that takes all of the text. -/
theorem eq_block_of_open {style : Style} {text : List Char} (hstyle : style? text = some style)
    (hopen : (read style text).closed = false) :
    style = .block ∧ (read style text).text = text
      ∧ ∃ body, text = '/' :: '*' :: body ∧ ¬ closer <:+: body := by
  rcases eq_cons_of_style? hstyle with ⟨rfl, rest, rfl⟩ | ⟨rfl, rest, rfl⟩
  · cases hopen
  · rcases exists_first_closer rest with ⟨body, behind, hbody, rfl⟩ | hnone
    · rw [read_block_eq, readBody_append_closer hbody] at hopen
      cases hopen
    · refine ⟨rfl, ?_, rest, rfl, hnone⟩
      rw [read_block_eq, readBody_of_no_closer hnone]

/-! ## Other texts behind the same comment -/

/-- A complete comment stays one at the end of a text. -/
theorem Complete.nil {comment behind : List Char} (h : Complete comment behind) :
    Complete comment [] := by
  cases h with
  | line hbody _ => exact .line hbody fun _ h => (Option.not_mem_none _ h).elim
  | block hbody => exact .block hbody

/-- A complete comment stays one in front of a line feed. -/
theorem Complete.lineFeed {comment behind : List Char} (h : Complete comment behind)
    (rest : List Char) : Complete comment ('\n' :: rest) := by
  cases h with
  | line hbody _ => exact .line hbody fun char hchar => (Option.some.inj hchar).symm
  | block hbody => exact .block hbody

/-- A line feed further on leaves a complete comment complete. -/
theorem Complete.append_lineFeed {comment behind : List Char} (h : Complete comment behind)
    (rest : List Char) : Complete comment (behind ++ '\n' :: rest) := by
  cases behind with
  | nil => exact h.lineFeed rest
  | cons char behind =>
    cases h with
    | line hbody hbehind => exact .line hbody hbehind
    | block hbody => exact .block hbody

theorem Complete.ne_nil {comment behind : List Char} (h : Complete comment behind) :
    comment ≠ [] := by
  cases h <;> simp

end Comment
end Lexeme
end SourceLexer
