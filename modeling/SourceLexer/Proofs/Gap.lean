import SourceLexer.Lexeme.Blank
import SourceLexer.Proofs.Lexeme.Reading

/-!
# What stands between two tokens

`Gap` is the grammar of what may be passed over: blank characters, and complete comments where
these are not wanted as tokens.  Whether a line comment is complete depends on what stands behind
it, so a gap is one in front of a certain text.

## Passing over gaps

`exists_gap` says that the blanks at the front of a text form a gap, and that none are left behind
them.  `blanks_append` is the other direction: a gap is always passed over as a whole.  Together
they make the blanks at the front of a text the longest gap there is.

Where blanks stop is said by `blanks_eq_nil_iff` in terms of the next reading: at a character
that is not blank, unless a comment can be read there and is not wanted.
-/

namespace SourceLexer
namespace Lexeme

/-- What may stand between tokens, in front of some text. -/
inductive Gap (keepComments : Bool) : (gap behind : List Char) → Prop where
  | nil {behind : List Char} : Gap keepComments [] behind
  | blank {char : Char} {gap behind : List Char} : isBlank char = true →
      Gap keepComments gap behind → Gap keepComments (char :: gap) behind
  | comment {comment gap behind : List Char} : keepComments = false →
      Comment.Complete comment (gap ++ behind) → Gap keepComments gap behind →
      Gap keepComments (comment ++ gap) behind

/-! ## One step over blanks -/

theorem blanks_cons_of_isBlank (keepComments : Bool) {char : Char} (h : isBlank char = true)
    (rest : List Char) :
    blanks keepComments (char :: rest) = char :: blanks keepComments rest := by
  rw [blanks, if_pos h]

/-- A complete comment that is not wanted is passed over. -/
theorem blanks_complete_append {comment behind : List Char}
    (h : Comment.Complete comment behind) :
    blanks false (comment ++ behind) = comment ++ blanks false behind := by
  obtain ⟨style, hstyle, hread⟩ := Comment.read_of_complete h
  have hcloses : Comment.closes (comment ++ behind) = true := by
    rw [Comment.closes_eq_closed hstyle, hread]
  obtain ⟨rest, rfl⟩ : ∃ rest, comment = '/' :: rest := by cases h <;> exact ⟨_, rfl⟩
  rw [List.cons_append] at hstyle hread hcloses ⊢
  rw [blanks, if_neg (by decide), hstyle]
  simp [hcloses, hread]

/-- Nothing is passed over exactly where the next lexeme starts. -/
theorem blanks_eq_nil_iff {keepComments : Bool} {char : Char} {rest : List Char} :
    blanks keepComments (char :: rest) = [] ↔
      isBlank char = false
        ∧ (keepComments = false → (Reading.read (char :: rest)).kind ≠ .comment) := by
  constructor
  · intro h
    have hblank : isBlank char = false := by
      rw [Bool.eq_false_iff]
      intro hblank
      simp [blanks_cons_of_isBlank keepComments hblank] at h
    refine ⟨hblank, ?_⟩
    rintro rfl hkind
    obtain ⟨comment, behind, htext, hcomplete⟩ := Reading.complete_of_kind hkind
    rw [htext, blanks_complete_append hcomplete, List.append_eq_nil_iff] at h
    exact hcomplete.ne_nil h.1
  · rintro ⟨hblank, hkind⟩
    rw [blanks, if_neg (by simp [hblank])]
    split
    · next style hstyle =>
      split
      · next hskip =>
        -- a comment that is skipped is a complete one, and would have been read as such
        rw [Bool.and_eq_true, Bool.not_eq_true', Comment.closes_eq_closed hstyle] at hskip
        obtain ⟨behind, htext, hcomplete⟩ := Comment.complete_of_closed hstyle hskip.2
        refine absurd ?_ (hkind hskip.1)
        rw [htext, Reading.read_of_complete hcomplete]
        rfl
      · rfl
    · rfl

/-! ## Gaps are what is passed over -/

/-- A gap is passed over as a whole. -/
theorem blanks_append {keepComments : Bool} {gap behind : List Char}
    (h : Gap keepComments gap behind) :
    blanks keepComments (gap ++ behind) = gap ++ blanks keepComments behind := by
  induction h with
  | nil => rfl
  | blank hblank _ ih =>
    rw [List.cons_append, blanks_cons_of_isBlank keepComments hblank, ih, List.cons_append]
  | @comment comment gap behind hkeep hcomplete _ ih =>
    subst hkeep
    rw [List.append_assoc, blanks_complete_append hcomplete, ih, List.append_assoc]

/-- A text is a gap and something at which no gap starts. -/
theorem exists_gap (keepComments : Bool) (text : List Char) :
    ∃ gap behind, text = gap ++ behind ∧ Gap keepComments gap behind
      ∧ blanks keepComments behind = [] := by
  induction hlength : text.length using Nat.strong_induction_on generalizing text with
  | _ length ih =>
    subst hlength
    cases text with
    | nil => exact ⟨[], [], rfl, .nil, blanks_nil keepComments⟩
    | cons char rest =>
      by_cases hstop : blanks keepComments (char :: rest) = []
      · exact ⟨[], char :: rest, rfl, .nil, hstop⟩
      · rw [blanks_eq_nil_iff, not_and] at hstop
        by_cases hblank : isBlank char = true
        · obtain ⟨gap, behind, rfl, hgap, hend⟩ := ih rest.length (by simp) rest rfl
          exact ⟨char :: gap, behind, rfl, .blank hblank hgap, hend⟩
        · obtain ⟨hkeep, hkind⟩ := Classical.not_imp.1 (hstop (by simpa using hblank))
          obtain ⟨comment, behind, htext, hcomplete⟩ :=
            Reading.complete_of_kind (not_not.1 hkind)
          have hshort : behind.length < (char :: rest).length := by
            have hpos := List.length_pos_of_ne_nil hcomplete.ne_nil
            rw [htext, List.length_append]
            omega
          obtain ⟨gap, behind, rfl, hgap, hend⟩ := ih behind.length hshort behind rfl
          refine ⟨comment ++ gap, behind, ?_, .comment hkeep hcomplete hgap, hend⟩
          rw [htext, List.append_assoc]

/-- The blanks at the front of a text are a gap, and none are left behind them. -/
theorem blanks_eq_of_gap {keepComments : Bool} {gap behind : List Char}
    (hgap : Gap keepComments gap behind) (hstop : blanks keepComments behind = []) :
    blanks keepComments (gap ++ behind) = gap := by
  rw [blanks_append hgap, hstop, List.append_nil]

/-- At the end of the input a gap is passed over and nothing is left. -/
theorem blanks_eq_self_of_gap {keepComments : Bool} {gap : List Char}
    (h : Gap keepComments gap []) : blanks keepComments gap = gap := by
  have hblanks := blanks_eq_of_gap h (blanks_nil keepComments)
  rwa [List.append_nil] at hblanks

/-! ## Gaps in front of other texts -/

/-- Whatever is passed over where comments are wanted is passed over where they are not. -/
theorem Gap.of_keepComments {keepComments : Bool} {gap behind : List Char}
    (h : Gap keepComments gap behind) : Gap false gap behind := by
  induction h with
  | nil => exact .nil
  | blank hblank _ ih => exact .blank hblank ih
  | comment _ hcomplete _ ih => exact .comment rfl hcomplete ih

/-- A gap is a gap wherever comments are wanted less. -/
theorem Gap.of_le {kept keepComments : Bool} (hkeep : keepComments = true → kept = true)
    {gap behind : List Char} (h : Gap kept gap behind) : Gap keepComments gap behind := by
  cases keepComments with
  | false => exact h.of_keepComments
  | true => rwa [hkeep rfl] at h

/-- A line feed further on leaves a gap a gap. -/
theorem Gap.append_lineFeed {keepComments : Bool} {gap behind : List Char}
    (h : Gap keepComments gap behind) (rest : List Char) :
    Gap keepComments gap (behind ++ '\n' :: rest) := by
  induction h with
  | nil => exact .nil
  | blank hblank _ ih => exact .blank hblank ih
  | comment hkeep hcomplete _ ih =>
    refine .comment hkeep ?_ ih
    rw [← List.append_assoc]
    exact hcomplete.append_lineFeed rest

/-- Gaps can be put together. -/
theorem Gap.append {keepComments : Bool} {first second behind : List Char}
    (hfirst : Gap keepComments first (second ++ behind))
    (hsecond : Gap keepComments second behind) : Gap keepComments (first ++ second) behind := by
  generalize hmiddle : second ++ behind = middle at hfirst
  induction hfirst with
  | nil => exact hsecond
  | blank hblank _ ih => exact .blank hblank (ih hmiddle)
  | comment hkeep hcomplete _ ih =>
    subst hmiddle
    rw [List.append_assoc]
    refine .comment hkeep ?_ (ih rfl)
    rwa [List.append_assoc]

end Lexeme
end SourceLexer
