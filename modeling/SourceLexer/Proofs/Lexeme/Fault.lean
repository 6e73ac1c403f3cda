import SourceLexer.Proofs.Lexeme.Reading

/-!
# What bad text looks like

Text is bad in four ways, and which one it is shows in the text itself.  `Fault` says how: a
quotation that does not close starts with its quote, a block comment that does not close with its
opening pair, and anything else that is bad is a single character with which no lexeme starts.  It
says as well where each of them ends, which depends on what stands behind.

So the first characters of bad text tell what is wrong with it (`Fault.string_iff`,
`Fault.character_iff`, `Fault.comment_iff`, `Fault.exists_stray`).

Every reading that finds something bad finds it in one of these ways, and a token is an error only
if there is something bad (`Reading.justified_read`).
-/

namespace SourceLexer
namespace Lexeme

/-! ## Quotations that do not close -/

/-- A quotation that does not close, in front of some text.  It goes up to a line feed, or it goes
up to the end of the input, where a backslash has nothing left to escape. -/
inductive Quotation.Open (quote : Char) : (text behind : List Char) → Prop where
  | lineFeed {items rest : List Char} : Items quote items →
      Open quote (quote :: items) ('\n' :: rest)
  | ended {items : List Char} : Items quote items → Open quote (quote :: items) []
  | backslash {items : List Char} : Items quote items →
      Open quote (quote :: (items ++ ['\\'])) []

namespace Quotation

variable {quote : Char} {rest : List Char}

/-- A quotation that is read without its closing quote is an open one. -/
theorem open_of_read (hslash : quote ≠ '\\') (hfeed : quote ≠ '\n')
    (h : (read quote rest).closed = false) :
    ∃ behind, quote :: rest = (read quote rest).text ++ behind
      ∧ Open quote (read quote rest).text behind := by
  have hread : read quote rest = (readItems quote rest).after [quote] := rfl
  rw [hread] at h ⊢
  obtain ⟨items, hitems, ⟨more, rfl⟩ | ⟨more, rfl⟩ | rfl | rfl⟩ := exists_items quote rest
  · rw [readItems_closed hslash hitems] at h
    cases h
  · rw [readItems_lineFeed hslash hfeed hitems]
    exact ⟨'\n' :: more, rfl, .lineFeed hitems⟩
  · rw [readItems_end hslash hitems]
    exact ⟨[], (List.append_nil _).symm, .ended hitems⟩
  · rw [readItems_backslash hslash hitems]
    exact ⟨[], (List.append_nil _).symm, .backslash hitems⟩

theorem Open.head?_text {text behind : List Char} (h : Open quote text behind) :
    text.head? = some quote := by
  cases h <;> rfl

/-- Behind an open quotation there is a line feed, if there is anything at all. -/
theorem Open.head?_behind {text behind : List Char} (h : Open quote text behind) :
    ∀ char ∈ behind.head?, char = '\n' := by
  intro char hchar
  cases h with
  | lineFeed _ => exact (Option.some.inj hchar).symm
  | ended _ => exact (Option.not_mem_none _ hchar).elim
  | backslash _ => exact (Option.not_mem_none _ hchar).elim

end Quotation

/-! ## Characters with which nothing starts -/

/-- The two characters with which quotations start. -/
def isQuote (char : Char) : Bool :=
  char = '"' || char = '\''

/-- A character with which no lexeme starts. -/
structure StartsNothing (char : Char) : Prop where
  word : Word.isStart char = false
  digit : char.isDigit = false
  quote : isQuote char = false
  symbol : ∀ sign : Symbol, sign.spelling.toList.head? ≠ some char

theorem StartsNothing.ne_doubleQuote {char : Char} (h : StartsNothing char) : char ≠ '"' := by
  rintro rfl
  exact Bool.noConfusion h.quote

theorem StartsNothing.ne_singleQuote {char : Char} (h : StartsNothing char) : char ≠ '\'' := by
  rintro rfl
  exact Bool.noConfusion h.quote

/-- Every symbol starts with a character that is a symbol by itself. -/
theorem isSome_ofChar?_of_head?_spelling {sign : Symbol} {char : Char}
    (h : sign.spelling.toList.head? = some char) : (Symbol.ofChar? char).isSome = true := by
  have hall : ∀ sign : Symbol,
      sign.spelling.toList.head?.all (fun char => (Symbol.ofChar? char).isSome) = true := by
    intro sign
    cases sign <;> decide +kernel
  have hsign := hall sign
  rwa [h] at hsign

/-! ## Bad text -/

/-- Bad text and what is wrong with it, in front of some text. -/
inductive Fault : Diagnostic.Cause → (text behind : List Char) → Prop where
  | string {text behind : List Char} : Quotation.Open '"' text behind →
      Fault (.unterminatedString (String.ofList text)) text behind
  | character {text behind : List Char} : Quotation.Open '\'' text behind →
      Fault (.unterminatedCharacter (String.ofList text)) text behind
  | comment {body : List Char} : ¬ Comment.closer <:+: body →
      Fault (.unterminatedComment (String.ofList ('/' :: '*' :: body))) ('/' :: '*' :: body) []
  | stray {char : Char} {behind : List Char} : StartsNothing char →
      Fault (.invalidCharacter char) [char] behind

/-! ### The text shows what is wrong with it -/

namespace Fault

variable {cause : Diagnostic.Cause} {text behind : List Char}

theorem lexeme_eq (h : Fault cause text behind) : cause.lexeme = some (String.ofList text) := by
  cases h <;> rfl

theorem string_iff (h : Fault cause text behind) :
    (∃ lexeme, cause = .unterminatedString lexeme) ↔ text.head? = some '"' := by
  cases h with
  | string hopen => simp [hopen.head?_text]
  | character hopen => simp [hopen.head?_text]
  | comment _ => simp
  | stray hchar => simp [hchar.ne_doubleQuote]

theorem character_iff (h : Fault cause text behind) :
    (∃ lexeme, cause = .unterminatedCharacter lexeme) ↔ text.head? = some '\'' := by
  cases h with
  | string hopen => simp [hopen.head?_text]
  | character hopen => simp [hopen.head?_text]
  | comment _ => simp
  | stray hchar => simp [hchar.ne_singleQuote]

theorem comment_iff (h : Fault cause text behind) :
    (∃ lexeme, cause = .unterminatedComment lexeme) ↔ ['/', '*'] <+: text := by
  cases h with
  | string hopen => cases hopen <;> simp
  | character hopen => cases hopen <;> simp
  | comment _ => simp
  | stray hchar => simp

/-- What is neither a quotation nor a comment is a single character. -/
theorem exists_stray (h : Fault cause text behind) (hstring : text.head? ≠ some '"')
    (hcharacter : text.head? ≠ some '\'') (hcomment : ¬ ['/', '*'] <+: text) :
    ∃ char, text = [char] ∧ cause = .invalidCharacter char ∧ StartsNothing char := by
  cases h with
  | string hopen => exact absurd hopen.head?_text hstring
  | character hopen => exact absurd hopen.head?_text hcharacter
  | comment _ => exact absurd (List.prefix_append _ _) hcomment
  | stray hchar => exact ⟨_, rfl, rfl, hchar⟩

/-- Behind a quotation that does not close there is a line feed, or nothing. -/
theorem head?_behind_of_quotation (h : Fault cause text behind)
    (hquote : text.head? = some '"' ∨ text.head? = some '\'') :
    ∀ char ∈ behind.head?, char = '\n' := by
  cases h with
  | string hopen => exact hopen.head?_behind
  | character hopen => exact hopen.head?_behind
  | comment _ => simp at hquote
  | stray hchar => simp [hchar.ne_doubleQuote, hchar.ne_singleQuote] at hquote

/-- Behind a comment that does not close there is nothing. -/
theorem behind_eq_nil_of_comment (h : Fault cause text behind) (hcomment : ['/', '*'] <+: text) :
    behind = [] := by
  cases h with
  | string hopen => cases hopen <;> simp at hcomment
  | character hopen => cases hopen <;> simp at hcomment
  | comment _ => rfl
  | stray hchar => simp at hcomment

end Fault

/-! ### Readings are justified -/

namespace Reading

/-- What a reading says of the text at whose front it has been made is justified: no token is an
error, and what is bad is a fault there. -/
def Justified (text : List Char) : Reading → Prop
  | .endOfInput => True
  | .token kind _ _ => kind ≠ .error
  | .fault cause taken => ∃ behind, text = taken ++ behind ∧ Fault cause taken behind

theorem justified_ofComment {style : Comment.Style} {text : List Char}
    (h : Comment.style? text = some style) :
    (ofComment (Comment.read style text)).Justified text := by
  unfold ofComment
  split
  · rintro ⟨⟩
  · next hclosed =>
    obtain ⟨-, htaken, body, rfl, hbody⟩ :=
      Comment.eq_block_of_open h (Bool.eq_false_iff.2 hclosed)
    rw [htaken]
    exact ⟨[], (List.append_nil _).symm, .comment hbody⟩

theorem justified_ofWord (word text : List Char) : (ofWord word).Justified text := by
  unfold ofWord Word.kind
  split <;> rintro ⟨⟩

theorem justified_ofNumeral (parts : Numeral.Parts) (text : List Char) :
    (ofNumeral parts).Justified text := by
  rintro ⟨⟩

theorem justified_ofString (rest : List Char) :
    (ofString (Quotation.read '"' rest)).Justified ('"' :: rest) := by
  unfold ofString
  split
  · rintro ⟨⟩
  · next hclosed =>
    obtain ⟨behind, htext, hopen⟩ :=
      Quotation.open_of_read (by decide) (by decide) (Bool.eq_false_iff.2 hclosed)
    exact ⟨behind, htext, .string hopen⟩

theorem justified_ofCharacter (rest : List Char) :
    (ofCharacter (Quotation.read '\'' rest)).Justified ('\'' :: rest) := by
  unfold ofCharacter
  split
  · rintro ⟨⟩
  · next hclosed =>
    obtain ⟨behind, htext, hopen⟩ :=
      Quotation.open_of_read (by decide) (by decide) (Bool.eq_false_iff.2 hclosed)
    exact ⟨behind, htext, .character hopen⟩

variable {char : Char}

theorem justified_ofSingle (hword : Word.isStart char = false) (hdigit : char.isDigit = false)
    (hquote : isQuote char = false) (rest : List Char) :
    (ofSingle char).Justified (char :: rest) := by
  unfold ofSingle
  split
  · rintro ⟨⟩
  · next hnone =>
    refine ⟨rest, rfl, .stray ⟨hword, hdigit, hquote, ?_⟩⟩
    intro sign hsign
    have hsome := isSome_ofChar?_of_head?_spelling hsign
    rw [hnone] at hsome
    cases hsome

theorem justified_ofSymbol (hword : Word.isStart char = false) (hdigit : char.isDigit = false)
    (hquote : isQuote char = false) (rest : List Char) :
    (ofSymbol char rest).Justified (char :: rest) := by
  unfold ofSymbol
  split
  · exact justified_ofSingle hword hdigit hquote []
  · split
    · rintro ⟨⟩
    · exact justified_ofSingle hword hdigit hquote _

theorem justified_readPlain (char : Char) (rest : List Char) :
    (readPlain char rest).Justified (char :: rest) := by
  unfold readPlain
  split_ifs with hword hdigit hstring hcharacter
  · exact justified_ofWord _ _
  · exact justified_ofNumeral _ _
  · rw [hstring]
    exact justified_ofString rest
  · rw [hcharacter]
    exact justified_ofCharacter rest
  · refine justified_ofSymbol (Bool.eq_false_iff.2 hword) (Bool.eq_false_iff.2 hdigit) ?_ rest
    simp [isQuote, hstring, hcharacter]

/-- Whatever is read is justified by the text. -/
theorem justified_read (text : List Char) : (read text).Justified text := by
  cases text with
  | nil => trivial
  | cons char rest =>
    cases hstyle : Comment.style? (char :: rest) with
    | some style =>
      rw [read_of_style? hstyle]
      exact justified_ofComment hstyle
    | none =>
      rw [read_of_style?_none hstyle]
      exact justified_readPlain char rest

/-- What is found wrong with a text is a fault there. -/
theorem fault_of_read {reading : Reading} {behind : List Char} {cause : Diagnostic.Cause}
    (hread : read (reading.text ++ behind) = reading) (hcause : reading.cause? = some cause) :
    Fault cause reading.text behind := by
  have hjustified := justified_read (reading.text ++ behind)
  rw [hread] at hjustified
  cases reading with
  | endOfInput => cases hcause
  | token kind taken => cases hcause
  | fault found taken =>
    obtain rfl : found = cause := Option.some.inj hcause
    obtain ⟨rest, htext, hfault⟩ := hjustified
    rw [List.append_cancel_left htext]
    exact hfault

end Reading
end Lexeme
end SourceLexer
