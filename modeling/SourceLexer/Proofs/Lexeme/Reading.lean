import SourceLexer.Lexeme.Reading
import SourceLexer.Proofs.Lexeme.Comment
import SourceLexer.Proofs.Lexeme.Numeral
import SourceLexer.Proofs.Lexeme.Quotation

/-!
# What a reading depends on

A reading is put together from one of six readers.  Here is what holds of all of them, so that
nothing further on has to tell them apart.

* `faithful_read`: a reading shows the text that it takes up, whether the text is kept in the token
  or comes back from the spelling of a symbol, and it is kept where the kind of the token asks for
  that.
* `read_text`: a lexeme that stands alone is read again.
* `read_text_append_lineFeed`: a lexeme that had something behind it is read again in front of a
  line feed.
* `read_append_lineFeed`: a line feed behind a text changes nothing in the reading at its front,
  unless the text ends in a backslash or is a comment that does not close.

## Why a line feed

A line feed belongs to no word, numeral or symbol.  It ends a line comment and breaks off a
quotation, as the end of the input does.  Only an escape and an open block comment reach over it,
and both of them show at the end of the text.
-/

namespace SourceLexer
namespace Lexeme
namespace Reading

/-- The kind of the token that a reading yields. -/
def kind : Reading → Token.Kind
  | .endOfInput => .endOfInput
  | .token kind _ _ => kind
  | .fault _ _ => .error

/-- The lexeme of the token that a reading yields. -/
def lexeme : Reading → Option String
  | .endOfInput => none
  | .token _ lexeme _ => lexeme
  | .fault cause _ => cause.lexeme

/-- What is wrong with the text, if it is bad. -/
def cause? : Reading → Option Diagnostic.Cause
  | .fault cause _ => some cause
  | _ => none

/-- What a reading yields shows the text that it takes up.  A token has a lexeme exactly if its kind
carries one, and without a lexeme it is the kind that says how the text is written. -/
def Faithful : Reading → Prop
  | .endOfInput => True
  | .token kind lexeme text =>
    kind ≠ .endOfInput ∧ lexeme.isSome = kind.carriesText
      ∧ lexeme.getD kind.fixedText = String.ofList text
  | .fault cause text => cause.lexeme = some (String.ofList text)

/-! ## The six readers -/

/-- The reading of a text that starts no comment. -/
def readPlain (char : Char) (rest : List Char) : Reading :=
  if Word.isStart char then ofWord (Word.read (char :: rest))
  else if char.isDigit then ofNumeral (Numeral.read (char :: rest))
  else if char = '"' then ofString (Quotation.read char rest)
  else if char = '\'' then ofCharacter (Quotation.read char rest)
  else ofSymbol char rest

theorem read_of_style? {style : Comment.Style} {char : Char} {rest : List Char}
    (h : Comment.style? (char :: rest) = some style) :
    read (char :: rest) = ofComment (Comment.read style (char :: rest)) := by
  rw [read, h]

theorem read_of_style?_none {char : Char} {rest : List Char}
    (h : Comment.style? (char :: rest) = none) : read (char :: rest) = readPlain char rest := by
  rw [read, h]
  rfl

theorem read_of_complete {comment behind : List Char} (h : Comment.Complete comment behind) :
    read (comment ++ behind) = verbatim .comment comment := by
  obtain ⟨style, hstyle, hread⟩ := Comment.read_of_complete h
  cases comment with
  | nil => exact absurd rfl h.ne_nil
  | cons char comment =>
    rw [List.cons_append] at hstyle hread ⊢
    rw [read_of_style? hstyle, hread]
    rfl

/-- The three ways in which a text can start: with a complete comment, with a comment that takes
all of it, or with no comment at all. -/
theorem read_cases (char : Char) (rest : List Char) :
    (∃ comment behind, char :: rest = comment ++ behind ∧ Comment.Complete comment behind)
      ∨ read (char :: rest)
          = .fault (.unterminatedComment (String.ofList (char :: rest))) (char :: rest)
      ∨ Comment.style? (char :: rest) = none := by
  cases hstyle : Comment.style? (char :: rest) with
  | none => exact .inr (.inr rfl)
  | some style =>
    cases hclosed : (Comment.read style (char :: rest)).closed with
    | true =>
      obtain ⟨behind, htext, hcomplete⟩ := Comment.complete_of_closed hstyle hclosed
      exact .inl ⟨_, behind, htext, hcomplete⟩
    | false =>
      obtain ⟨-, htext, -⟩ := Comment.eq_block_of_open hstyle hclosed
      rw [read_of_style? hstyle, ofComment, if_neg (by simp [hclosed]), htext]
      exact .inr (.inl rfl)

/-- Only a comment is read as one. -/
theorem kind_readPlain_ne_comment (char : Char) (rest : List Char) :
    (readPlain char rest).kind ≠ .comment := by
  unfold readPlain
  split_ifs
  · unfold ofWord Word.kind
    split <;> rintro ⟨⟩
  · rintro ⟨⟩
  · unfold ofString
    split <;> rintro ⟨⟩
  · unfold ofCharacter
    split <;> rintro ⟨⟩
  · have hsingle : (ofSingle char).kind ≠ .comment := by
      unfold ofSingle
      split <;> rintro ⟨⟩
    unfold ofSymbol
    split
    · exact hsingle
    · split
      · rintro ⟨⟩
      · exact hsingle

/-- What is read as a comment is a complete one. -/
theorem complete_of_kind {text : List Char} (h : (read text).kind = .comment) :
    ∃ comment behind, text = comment ++ behind ∧ Comment.Complete comment behind := by
  cases text with
  | nil => cases h
  | cons char rest =>
    rcases read_cases char rest with hcomplete | hopen | hstyle
    · exact hcomplete
    · rw [hopen] at h
      cases h
    · rw [read_of_style?_none hstyle] at h
      exact absurd h (kind_readPlain_ne_comment char rest)

/-! ## A reading shows its text -/

theorem spelling_of_ofPair? {first second : Char} {sign : Symbol}
    (h : Symbol.ofPair? first second = some sign) :
    sign.spelling = String.ofList [first, second] := by
  have hall : ∀ entry ∈ Symbol.pairs, entry.2.spelling = String.ofList [entry.1.1, entry.1.2] := by
    decide
  obtain ⟨front, back, hpairs, -⟩ := List.lookup_eq_some_iff.1 h
  exact hall ((first, second), sign) (by simp [hpairs])

theorem spelling_of_ofChar? {char : Char} {sign : Symbol} (h : Symbol.ofChar? char = some sign) :
    sign.spelling = String.ofList [char] := by
  have hall : ∀ entry ∈ Symbol.singles, entry.2.spelling = String.ofList [entry.1] := by decide
  obtain ⟨front, back, hsingles, -⟩ := List.lookup_eq_some_iff.1 h
  exact hall (char, sign) (by simp [hsingles])

/-- Where the kind carries a text, the text as it is written will do. -/
theorem faithful_verbatim {kind : Token.Kind} (h : kind.carriesText = true) (text : List Char) :
    (verbatim kind text).Faithful := by
  refine ⟨?_, h.symm, rfl⟩
  rintro rfl
  cases h

/-- A symbol needs no lexeme where it stands for its spelling. -/
theorem faithful_symbol {sign : Symbol} {text : List Char}
    (h : sign.spelling = String.ofList text) : (token (.symbol sign) none text).Faithful :=
  ⟨by rintro ⟨⟩, rfl, h⟩

theorem faithful_ofComment (comment : Comment) : (ofComment comment).Faithful := by
  unfold ofComment
  split
  · exact faithful_verbatim rfl comment.text
  · rfl

theorem faithful_ofWord (word : List Char) : (ofWord word).Faithful :=
  faithful_verbatim (Word.carriesText_kind word) word

theorem faithful_ofNumeral (parts : Numeral.Parts) : (ofNumeral parts).Faithful :=
  faithful_verbatim rfl parts.text

theorem faithful_ofString (quotation : Quotation) : (ofString quotation).Faithful := by
  unfold ofString
  split
  · exact faithful_verbatim rfl quotation.text
  · rfl

theorem faithful_ofCharacter (quotation : Quotation) : (ofCharacter quotation).Faithful := by
  unfold ofCharacter
  split
  · exact faithful_verbatim rfl quotation.text
  · rfl

theorem faithful_ofSingle (char : Char) : (ofSingle char).Faithful := by
  unfold ofSingle
  split
  · next sign h => exact faithful_symbol (spelling_of_ofChar? h)
  · rfl

theorem faithful_ofSymbol (char : Char) (rest : List Char) : (ofSymbol char rest).Faithful := by
  unfold ofSymbol
  split
  · exact faithful_ofSingle char
  · split
    · next sign h => exact faithful_symbol (spelling_of_ofPair? h)
    · exact faithful_ofSingle char

/-- Whatever is read shows the text that it takes up. -/
theorem faithful_read (text : List Char) : (read text).Faithful := by
  cases text with
  | nil => trivial
  | cons char rest =>
    rw [read]
    split
    · exact faithful_ofComment _
    · split_ifs
      · exact faithful_ofWord _
      · exact faithful_ofNumeral _
      · exact faithful_ofString _
      · exact faithful_ofCharacter _
      · exact faithful_ofSymbol char rest

/-- Text that is taken up is never taken for the end of the input. -/
theorem kind_read_ne_endOfInput {text : List Char} (h : (read text).text ≠ []) :
    (read text).kind ≠ .endOfInput := by
  have hfaithful := faithful_read text
  generalize read text = reading at h hfaithful ⊢
  cases reading with
  | endOfInput => exact absurd rfl h
  | token kind lexeme text => exact hfaithful.1
  | fault cause text => rintro ⟨⟩

/-! ## A lexeme by itself -/

/-- A reading takes up the first character and then a front of what follows it. -/
theorem exists_text_eq_cons (char : Char) (rest : List Char) :
    ∃ taken, (read (char :: rest)).text = char :: taken ∧ taken <+: rest := by
  have hfront := text_read_isPrefix_self (char :: rest)
  have hpos := length_text_read_pos char rest
  cases htext : (read (char :: rest)).text with
  | nil => simp [htext] at hpos
  | cons first taken =>
    rw [htext, List.cons_prefix_cons] at hfront
    obtain ⟨rfl, htaken⟩ := hfront
    exact ⟨taken, rfl, htaken⟩

/-- What starts no comment still starts none once its end is cut off. -/
theorem style?_none_of_front {char : Char} {taken rest : List Char}
    (h : Comment.style? (char :: rest) = none) (htaken : taken <+: rest) :
    Comment.style? (char :: taken) = none := by
  obtain ⟨behind, rfl⟩ := htaken
  cases taken with
  | nil => simp [Comment.style?]
  | cons second taken =>
    rw [List.cons_append, Comment.style?_cons_cons] at h
    rwa [Comment.style?_cons_cons]

theorem ofSymbol_text {char : Char} {taken rest : List Char}
    (h : (ofSymbol char rest).text = char :: taken) : ofSymbol char taken = ofSymbol char rest := by
  cases rest with
  | nil =>
    obtain rfl : taken = [] := by simpa [ofSymbol] using h.symm
    rfl
  | cons second rest =>
    cases hpair : Symbol.ofPair? char second with
    | some sign =>
      obtain rfl : taken = [second] := by simpa [ofSymbol, hpair, text] using h.symm
      simp [ofSymbol, hpair]
    | none =>
      obtain rfl : taken = [] := by simpa [ofSymbol, hpair] using h.symm
      simp [ofSymbol, hpair]

/-- Both kinds of quotation are read alike. -/
theorem exists_readPlain_quote {quote : Char} (h : quote = '"' ∨ quote = '\'') :
    ∃ build : Quotation → Reading, (∀ quotation, (build quotation).text = quotation.text)
      ∧ ∀ rest, readPlain quote rest = build (Quotation.read quote rest) := by
  rcases h with rfl | rfl
  · exact ⟨ofString, text_ofString, fun _ => rfl⟩
  · exact ⟨ofCharacter, text_ofCharacter, fun _ => rfl⟩

theorem readPlain_text {char : Char} {taken rest : List Char}
    (h : (readPlain char rest).text = char :: taken) :
    readPlain char taken = readPlain char rest := by
  by_cases hquote : char = '"' ∨ char = '\''
  · have hslash : char ≠ '\\' := by rcases hquote with rfl | rfl <;> decide
    obtain ⟨build, hbuild, hread⟩ := exists_readPlain_quote hquote
    rw [hread, hbuild] at h
    obtain rfl : (Quotation.readItems char rest).text = taken := (List.cons.inj h).2
    rw [hread, hread, Quotation.read, Quotation.readItems_text hslash, Quotation.read]
  · rw [not_or] at hquote
    unfold readPlain at h ⊢
    split_ifs at h ⊢ with hword hdigit
    · have hread : Word.read (char :: rest) = char :: taken := h
      rw [← hread, Word.read, Word.read, List.takeWhile_idem]
    · have hread : (Numeral.read (char :: rest)).text = char :: taken := h
      rw [← hread, Numeral.read_text hdigit]
    · exact absurd ‹_› hquote.1
    · exact absurd ‹_› hquote.2
    · exact ofSymbol_text h

/-- A lexeme that stands alone is read again. -/
theorem read_text (text : List Char) : read (read text).text = read text := by
  cases text with
  | nil => rfl
  | cons char rest =>
    rcases read_cases char rest with ⟨comment, behind, htext, hcomplete⟩ | hopen | hstyle
    · have halone := read_of_complete hcomplete.nil
      rw [List.append_nil] at halone
      rw [htext, read_of_complete hcomplete, text_verbatim, halone]
    · rw [hopen, text, hopen]
    · obtain ⟨taken, htaken, hfront⟩ := exists_text_eq_cons char rest
      rw [htaken, read_of_style?_none (style?_none_of_front hstyle hfront)]
      rw [read_of_style?_none hstyle] at htaken ⊢
      exact readPlain_text htaken

/-! ## A line feed behind a lexeme -/

theorem ofPair?_lineFeed (char : Char) : Symbol.ofPair? char '\n' = none := by
  have hall : ∀ entry ∈ Symbol.pairs, entry.1.2 ≠ '\n' := by decide
  refine List.lookup_eq_none_iff.2 ?_
  intro entry hentry
  rw [bne_iff_ne]
  rintro heq
  exact hall entry hentry (by rw [← heq])

theorem ofSymbol_append_lineFeed (char : Char) (text rest : List Char) :
    ofSymbol char (text ++ '\n' :: rest) = ofSymbol char text := by
  cases text with
  | nil => simp [ofSymbol, ofPair?_lineFeed]
  | cons second text => rfl

theorem wordRead_append_lineFeed (text rest : List Char) :
    Word.read (text ++ '\n' :: rest) = Word.read text := by
  rw [Word.read, List.takeWhile_append]
  split
  · next hall =>
    rw [List.takeWhile_cons_of_neg (by decide), List.append_nil, Word.read]
    exact ((List.takeWhile_prefix _).eq_of_length hall).symm
  · rfl

/-- Behind anything but a quotation a line feed changes nothing. -/
theorem readPlain_append_lineFeed {char : Char} (hquote : ¬ (char = '"' ∨ char = '\''))
    (text rest : List Char) : readPlain char (text ++ '\n' :: rest) = readPlain char text := by
  rw [not_or] at hquote
  unfold readPlain
  split_ifs with hword hdigit
  · rw [← List.cons_append, wordRead_append_lineFeed]
  · rw [Numeral.read_append_lineFeed hdigit]
  · exact absurd ‹_› hquote.1
  · exact absurd ‹_› hquote.2
  · exact ofSymbol_append_lineFeed char text rest

/-- A quotation with something behind it is read again in front of a line feed, and so is
everything else. -/
theorem readPlain_text_append_lineFeed {char : Char} {taken behind : List Char}
    (h : (readPlain char behind).text = char :: taken) (hbehind : taken ≠ behind)
    (rest : List Char) : readPlain char (taken ++ '\n' :: rest) = readPlain char behind := by
  by_cases hquote : char = '"' ∨ char = '\''
  · have hslash : char ≠ '\\' := by rcases hquote with rfl | rfl <;> decide
    have hfeed : char ≠ '\n' := by rcases hquote with rfl | rfl <;> decide
    obtain ⟨build, hbuild, hread⟩ := exists_readPlain_quote hquote
    rw [hread, hbuild] at h
    obtain rfl : (Quotation.readItems char behind).text = taken := (List.cons.inj h).2
    rw [hread, hread, Quotation.read, Quotation.read,
      Quotation.readItems_text_append_lineFeed hslash hfeed hbehind]
  · rw [readPlain_append_lineFeed hquote, readPlain_text h]

/-- A lexeme that had something behind it is read again in front of a line feed. -/
theorem read_text_append_lineFeed {text : List Char} (h : (read text).text ≠ text)
    (rest : List Char) : read ((read text).text ++ '\n' :: rest) = read text := by
  cases text with
  | nil => exact absurd rfl h
  | cons char behind =>
    rcases read_cases char behind with ⟨comment, more, htext, hcomplete⟩ | hopen | hstyle
    · rw [htext, read_of_complete hcomplete]
      exact read_of_complete (hcomplete.lineFeed rest)
    · rw [hopen] at h
      exact absurd rfl h
    · obtain ⟨taken, htaken, hfront⟩ := exists_text_eq_cons char behind
      have hbehind : taken ≠ behind := by
        rintro rfl
        exact h htaken
      have hnone : Comment.style? (char :: (taken ++ '\n' :: rest)) = none := by
        rw [Comment.style?_append_lineFeed]
        exact style?_none_of_front hstyle hfront
      rw [htaken, List.cons_append, read_of_style?_none hnone]
      rw [read_of_style?_none hstyle] at htaken ⊢
      exact readPlain_text_append_lineFeed htaken hbehind rest

/-- A line feed behind a text changes nothing in the reading at its front, unless it gets into an
escape or into a comment that does not close. -/
theorem read_append_lineFeed {text : List Char} (hne : text ≠ [])
    (hlast : text.getLast? ≠ some '\\')
    (hopen : ∀ comment, (read text).cause? ≠ some (.unterminatedComment comment))
    (rest : List Char) : read (text ++ '\n' :: rest) = read text := by
  cases text with
  | nil => exact absurd rfl hne
  | cons char behind =>
    rcases read_cases char behind with ⟨comment, more, htext, hcomplete⟩ | hfault | hstyle
    · rw [htext, read_of_complete hcomplete, List.append_assoc]
      exact read_of_complete (hcomplete.append_lineFeed rest)
    · rw [hfault] at hopen
      exact absurd rfl (hopen _)
    · have hnone : Comment.style? (char :: (behind ++ '\n' :: rest)) = none := by
        rw [Comment.style?_append_lineFeed, hstyle]
      rw [List.cons_append, read_of_style?_none hnone, read_of_style?_none hstyle]
      by_cases hquote : char = '"' ∨ char = '\''
      · have hslash : char ≠ '\\' := by rcases hquote with rfl | rfl <;> decide
        have hfeed : char ≠ '\n' := by rcases hquote with rfl | rfl <;> decide
        have hlast' : behind.getLast? ≠ some '\\' := by
          intro h
          rw [List.getLast?_cons, h] at hlast
          exact hlast rfl
        obtain ⟨build, -, hread⟩ := exists_readPlain_quote hquote
        rw [hread, hread, Quotation.read, Quotation.read,
          Quotation.readItems_append_lineFeed hslash hfeed hlast']
      · exact readPlain_append_lineFeed hquote behind rest

end Reading
end Lexeme
end SourceLexer
