import SourceLexer.Proofs.Gap

/-!
# Which characters can be told apart

All that is asked of a character, in whichever reader, is whether it is one of a few ASCII
characters.  So characters that are not ASCII can be put for one another everywhere in a text, and
the same is read, with the new characters in it.  `KeepsAscii` is such a change of characters, and
it need not be one that can be undone: all of them may become the same.

## One lemma for each reader

Every reader commutes with the change: reading the changed text is to change what has been read in
the text as it was.  Tests of a single character come first (`KeepsAscii.eq_iff` and
`KeepsAscii.apply_eq`), then the readers that are made of them, and last `Reading.read_map` and
`blanks_map`.

Where a character that is not ASCII can stand at all is said by
`Reading.admitsAny_or_isAscii`: in comments, in quotations, and as a character with which nothing
starts.
-/

namespace SourceLexer

/-- Whether a character is one of the first 128 code points. -/
def IsAscii (char : Char) : Prop :=
  char.toNat < 128

instance (char : Char) : Decidable (IsAscii char) :=
  inferInstanceAs (Decidable (_ < _))

/-- A change of characters that leaves the ASCII ones alone and makes no other one ASCII. -/
structure KeepsAscii (change : Char → Char) : Prop where
  eq_self : ∀ char, IsAscii char → change char = char
  not_isAscii : ∀ char, ¬ IsAscii char → ¬ IsAscii (change char)

namespace KeepsAscii

variable {change : Char → Char}

/-- A character becomes a given ASCII character only if it is that one. -/
theorem eq_iff (h : KeepsAscii change) {sign : Char} (hsign : IsAscii sign) {char : Char} :
    change char = sign ↔ char = sign := by
  by_cases hchar : IsAscii char
  · rw [h.eq_self char hchar]
  · constructor
    · intro heq
      exact absurd (heq ▸ hsign) (h.not_isAscii char hchar)
    · rintro rfl
      exact absurd hsign hchar

/-- A test that only ASCII characters pass comes to the same after the change. -/
theorem apply_eq (h : KeepsAscii change) {test : Char → Bool}
    (htest : ∀ char, test char = true → IsAscii char) (char : Char) :
    test (change char) = test char := by
  by_cases hchar : IsAscii char
  · rw [h.eq_self char hchar]
  · have hfails : ∀ {other}, ¬ IsAscii other → test other = false := by
      intro other hother
      rw [Bool.eq_false_iff]
      exact fun hpasses => hother (htest other hpasses)
    rw [hfails hchar, hfails (h.not_isAscii char hchar)]

/-- Every test of that kind passes as much of the changed text. -/
theorem takeWhile_map (h : KeepsAscii change) {test : Char → Bool}
    (htest : ∀ char, test char = true → IsAscii char) (text : List Char) :
    (text.map change).takeWhile test = (text.takeWhile test).map change := by
  rw [List.takeWhile_map]
  congr 2
  exact funext fun char => h.apply_eq htest char

/-- A text of ASCII characters stays as it is. -/
theorem map_eq_self (h : KeepsAscii change) {text : List Char}
    (htext : ∀ char ∈ text, IsAscii char) : text.map change = text := by
  rw [List.map_congr_left fun char hchar => h.eq_self char (htext char hchar), List.map_id']

/-- The part of a text in front of a given ASCII character is the same part of the changed text. -/
theorem takeWhile_ne_map (h : KeepsAscii change) {sign : Char} (hsign : IsAscii sign)
    (text : List Char) :
    (text.map change).takeWhile (· != sign) = (text.takeWhile (· != sign)).map change := by
  rw [List.takeWhile_map]
  congr 2
  funext char
  rw [Function.comp_apply, Bool.eq_iff_iff, bne_iff_ne, bne_iff_ne, Ne, h.eq_iff hsign]

end KeepsAscii

/-! ## What is asked of a single character -/

theorem isAscii_of_isDigit {char : Char} (h : char.isDigit = true) : IsAscii char := by
  rw [Char.isDigit, Bool.and_eq_true, decide_eq_true_eq, decide_eq_true_eq] at h
  have hle : char.toNat ≤ 57 := h.2
  unfold IsAscii
  omega

theorem isAscii_of_isAlpha {char : Char} (h : char.isAlpha = true) : IsAscii char := by
  have hbounds := Lexeme.Word.bounds_of_isAlpha h
  unfold IsAscii
  omega

namespace Lexeme

theorem isAscii_of_isBlank {char : Char} (h : isBlank char = true) : IsAscii char := by
  simp only [isBlank, Bool.or_eq_true, decide_eq_true_eq] at h
  rcases h with ((rfl | rfl) | rfl) | rfl <;> decide

theorem Word.isAscii_of_isPart {char : Char} (h : isPart char = true) : IsAscii char := by
  simp only [isPart, Char.isAlphanum, Bool.or_eq_true, decide_eq_true_eq] at h
  rcases h with (h | h) | rfl
  · exact isAscii_of_isAlpha h
  · exact isAscii_of_isDigit h
  · decide

theorem Numeral.isAscii_of_isExponentMark {char : Char} (h : isExponentMark char = true) :
    IsAscii char := by
  simp only [isExponentMark, Bool.or_eq_true, decide_eq_true_eq] at h
  rcases h with rfl | rfl <;> decide

theorem Numeral.isAscii_of_isSign {char : Char} (h : isSign char = true) : IsAscii char := by
  simp only [isSign, Bool.or_eq_true, decide_eq_true_eq] at h
  rcases h with rfl | rfl <;> decide

end Lexeme

/-- Looking up in a table comes to the same if the keys cannot be told apart from their images. -/
theorem lookup_eq_of_mem {α β : Type} [BEq α] [LawfulBEq α] {table : List (α × β)}
    {first second : α} (h : ∀ entry ∈ table, first = entry.1 ↔ second = entry.1) :
    table.lookup first = table.lookup second := by
  induction table with
  | nil => rfl
  | cons entry table ih =>
    have hrest := ih fun other hother => h other (List.mem_cons_of_mem _ hother)
    have hhead : (first == entry.1) = (second == entry.1) := by
      rw [Bool.eq_iff_iff, beq_iff_eq, beq_iff_eq]
      exact h entry List.mem_cons_self
    rw [List.lookup_cons, List.lookup_cons, hhead, hrest]

namespace Symbol

theorem isAscii_of_mem_pairs : ∀ entry ∈ pairs, IsAscii entry.1.1 ∧ IsAscii entry.1.2 := by
  decide

theorem isAscii_of_mem_singles : ∀ entry ∈ singles, IsAscii entry.1 := by
  decide

variable {change : Char → Char}

theorem ofPair?_map (h : KeepsAscii change) (first second : Char) :
    ofPair? (change first) (change second) = ofPair? first second := by
  refine lookup_eq_of_mem fun entry hentry => ?_
  obtain ⟨hfirst, hsecond⟩ := isAscii_of_mem_pairs entry hentry
  rw [Prod.ext_iff, Prod.ext_iff]
  exact and_congr (h.eq_iff hfirst) (h.eq_iff hsecond)

theorem ofChar?_map (h : KeepsAscii change) (char : Char) :
    ofChar? (change char) = ofChar? char :=
  lookup_eq_of_mem fun entry hentry => h.eq_iff (isAscii_of_mem_singles entry hentry)

end Symbol

namespace Lexeme

variable {change : Char → Char}

/-! ## Comments -/

namespace Comment

/-- The comment with its characters changed. -/
def map (change : Char → Char) (comment : Comment) : Comment :=
  { comment with text := comment.text.map change }

theorem style?_map (h : KeepsAscii change) (text : List Char) :
    style? (text.map change) = style? text := by
  match text with
  | [] => rfl
  | [char] => simp [style?]
  | first :: second :: rest =>
    have hslash : IsAscii '/' := by decide
    have hstar : IsAscii '*' := by decide
    rw [List.map_cons, List.map_cons, style?_cons_cons, style?_cons_cons]
    simp only [h.eq_iff hslash, h.eq_iff hstar]

theorem readBody_map (h : KeepsAscii change) (text : List Char) :
    readBody (text.map change) = (readBody text).map change := by
  have hslash : IsAscii '/' := by decide
  have hstar : IsAscii '*' := by decide
  fun_induction readBody text with
  | case1 => rfl
  | case2 rest =>
    rw [List.map_cons, List.map_cons, h.eq_self _ hstar, h.eq_self _ hslash, map, List.map_cons,
      List.map_cons, h.eq_self _ hstar, h.eq_self _ hslash]
    rfl
  | case3 char rest hfront _ ih =>
    rw [List.map_cons, readBody.eq_3, ih]
    · rfl
    · -- a closing pair in the changed text would have been one before
      intro more hchar hrest
      obtain ⟨second, rest, rfl, hsecond, rfl⟩ := List.map_eq_cons_iff.1 hrest
      exact hfront rest ((h.eq_iff hstar).1 hchar) (by rw [(h.eq_iff hslash).1 hsecond])

theorem read_map (h : KeepsAscii change) (style : Style) (text : List Char) :
    read style (text.map change) = (read style text).map change := by
  cases style with
  | line =>
    rw [read, read, h.takeWhile_ne_map (by decide)]
    rfl
  | block =>
    rw [read, read, ← List.map_drop, readBody_map h, ← List.map_take]
    simp only [map, List.map_append]

theorem closes_map (h : KeepsAscii change) (text : List Char) :
    closes (text.map change) = closes text := by
  cases hstyle : style? text with
  | none =>
    have hstyle' := (style?_map h text).trans hstyle
    rw [closes, closes, hstyle, hstyle']
  | some style =>
    have hstyle' := (style?_map h text).trans hstyle
    rw [closes_eq_closed hstyle, closes_eq_closed hstyle', read_map h]
    rfl

end Comment

/-! ## Numerals -/

namespace Numeral

/-- The numeral with its characters changed. -/
def Parts.map (change : Char → Char) (parts : Parts) : Parts :=
  ⟨parts.whole.map change, parts.fraction.map change, parts.exponent.map change⟩

theorem digits_map (h : KeepsAscii change) (text : List Char) :
    digits (text.map change) = (digits text).map change :=
  h.takeWhile_map (fun _ => isAscii_of_isDigit) text

theorem withDigits_map (h : KeepsAscii change) (introduction text : List Char) :
    withDigits (introduction.map change) (text.map change)
      = (withDigits introduction text).map change := by
  rw [withDigits, withDigits, digits_map h]
  cases digits text with
  | nil => rfl
  | cons char found => exact List.map_append.symm

theorem fraction_map (h : KeepsAscii change) (text : List Char) :
    fraction (text.map change) = (fraction text).map change := by
  have hpoint : IsAscii '.' := by decide
  cases text with
  | nil => rfl
  | cons char rest =>
    rw [List.map_cons]
    by_cases hchar : char = '.'
    · subst hchar
      have hmapped := withDigits_map h ['.'] rest
      rw [List.map_singleton, h.eq_self _ hpoint] at hmapped
      rw [h.eq_self _ hpoint]
      exact hmapped
    · have hchar' : change char ≠ '.' := mt (h.eq_iff hpoint).1 hchar
      simp [fraction, hchar, hchar']

theorem exponent_map (h : KeepsAscii change) (text : List Char) :
    exponent (text.map change) = (exponent text).map change := by
  match text with
  | [] => rfl
  | [char] => rfl
  | mark :: sign :: rest =>
    rw [List.map_cons, List.map_cons, exponent, exponent,
      h.apply_eq fun _ => isAscii_of_isExponentMark, h.apply_eq fun _ => isAscii_of_isSign]
    split_ifs
    · exact withDigits_map h [mark, sign] rest
    · exact withDigits_map h [mark] (sign :: rest)
    · rfl

theorem read_map (h : KeepsAscii change) (text : List Char) :
    read (text.map change) = (read text).map change := by
  simp only [read, Parts.map, digits_map h, fraction_map h, exponent_map h, List.length_map,
    ← List.map_drop]

theorem Parts.text_map (parts : Parts) : (parts.map change).text = parts.text.map change := by
  rw [text, text, List.map_append, List.map_append]
  rfl

theorem Parts.form_map (parts : Parts) : (parts.map change).form = parts.form := by
  simp only [form, map, List.isEmpty_map]

end Numeral

/-! ## Words and quotations -/

theorem Word.read_map (h : KeepsAscii change) (text : List Char) :
    read (text.map change) = (read text).map change :=
  h.takeWhile_map (fun _ => isAscii_of_isPart) text

theorem Word.isAscii_of_mem_read {text : List Char} {char : Char} (h : char ∈ read text) :
    IsAscii char :=
  isAscii_of_isPart (List.mem_takeWhile_imp h)

namespace Quotation

/-- The quotation with its characters changed. -/
def map (change : Char → Char) (quotation : Quotation) : Quotation :=
  { quotation with text := quotation.text.map change }

theorem after_map (front : List Char) (quotation : Quotation) :
    (quotation.map change).after (front.map change) = (quotation.after front).map change := by
  rw [after, after, map, map, List.map_append]

theorem readItems_map (h : KeepsAscii change) {quote : Char} (hquote : IsAscii quote)
    (text : List Char) :
    readItems quote (text.map change) = (readItems quote text).map change := by
  have hfeed : IsAscii '\n' := by decide
  have hslash : IsAscii '\\' := by decide
  fun_induction readItems quote text with
  | case1 => rfl
  | case2 rest =>
    rw [List.map_cons, h.eq_self _ hquote, readItems_quote, map, List.map_singleton,
      h.eq_self _ hquote]
  | case3 rest hne =>
    rw [List.map_cons, h.eq_self _ hfeed, readItems_feed (Ne.symm hne)]
    rfl
  | case4 hne hne' =>
    rw [List.map_singleton, h.eq_self _ hslash, readItems, if_neg hne, if_neg hne', if_pos rfl, map,
      List.map_singleton, h.eq_self _ hslash]
  | case5 escaped rest hne hne' ih =>
    have hmapped := @after_map change ['\\', escaped] (readItems quote rest)
    rw [← ih, List.map_cons, h.eq_self _ hslash] at hmapped
    rw [List.map_cons, List.map_cons, h.eq_self _ hslash, ← hmapped, readItems, if_neg hne,
      if_neg hne', if_pos rfl]
    rfl
  | case6 char rest hne hne' hne'' ih =>
    have hmapped := @after_map change [char] (readItems quote rest)
    rw [← ih] at hmapped
    rw [List.map_cons, ← hmapped, readItems_plain (mt (h.eq_iff hquote).1 hne)
      (mt (h.eq_iff hfeed).1 hne') (mt (h.eq_iff hslash).1 hne'')]
    rfl

theorem read_map (h : KeepsAscii change) {quote : Char} (hquote : IsAscii quote)
    (rest : List Char) : read quote (rest.map change) = (read quote rest).map change := by
  have hmapped := @after_map change [quote] (readItems quote rest)
  rw [List.map_singleton, h.eq_self quote hquote] at hmapped
  rw [read, readItems_map h hquote, hmapped]
  rfl

end Quotation

end Lexeme

/-- The kinds of token in whose text every character can stand. -/
def Token.Kind.admitsAny : Token.Kind → Bool
  | .literal .string | .literal .character | .comment | .error => true
  | _ => false

/-! ## Whatever is read -/

theorem Text.ofList_map (change : Char → Char) (text : List Char) :
    String.ofList (text.map change) = (String.ofList text).map change := by
  refine String.ext ?_
  rw [String.toList_map, String.toList_ofList, String.toList_ofList]

/-- The same cause with the characters of the text at fault changed. -/
def Diagnostic.Cause.map (change : Char → Char) : Cause → Cause
  | .invalidCharacter char => .invalidCharacter (change char)
  | .unterminatedString text => .unterminatedString (text.map change)
  | .unterminatedCharacter text => .unterminatedCharacter (text.map change)
  | .unterminatedComment text => .unterminatedComment (text.map change)
  | .other message hint lexeme => .other message hint (lexeme.map (String.map change))

namespace Lexeme
namespace Reading

variable {change : Char → Char}

/-- The reading with the characters of its text changed. -/
def map (change : Char → Char) : Reading → Reading
  | .endOfInput => .endOfInput
  | .token kind lexeme text => .token kind (lexeme.map (String.map change)) (text.map change)
  | .fault cause text => .fault (cause.map change) (text.map change)

theorem text_map (reading : Reading) : (reading.map change).text = reading.text.map change := by
  cases reading <;> rfl

theorem verbatim_map (kind : Token.Kind) (text : List Char) :
    verbatim kind (text.map change) = (verbatim kind text).map change := by
  rw [verbatim, verbatim, map, Option.map_some, Text.ofList_map]

theorem ofComment_map (comment : Comment) :
    ofComment (comment.map change) = (ofComment comment).map change := by
  obtain ⟨text, closed⟩ := comment
  cases closed with
  | true => exact verbatim_map .comment text
  | false => simp [ofComment, Comment.map, map, Diagnostic.Cause.map, Text.ofList_map]

theorem ofString_map (quotation : Quotation) :
    ofString (quotation.map change) = (ofString quotation).map change := by
  obtain ⟨text, closed⟩ := quotation
  cases closed with
  | true => exact verbatim_map (.literal .string) text
  | false => simp [ofString, Quotation.map, map, Diagnostic.Cause.map, Text.ofList_map]

theorem ofCharacter_map (quotation : Quotation) :
    ofCharacter (quotation.map change) = (ofCharacter quotation).map change := by
  obtain ⟨text, closed⟩ := quotation
  cases closed with
  | true => exact verbatim_map (.literal .character) text
  | false => simp [ofCharacter, Quotation.map, map, Diagnostic.Cause.map, Text.ofList_map]

theorem ofNumeral_map (parts : Numeral.Parts) :
    ofNumeral (parts.map change) = (ofNumeral parts).map change := by
  rw [ofNumeral, ofNumeral, Numeral.Parts.form_map, Numeral.Parts.text_map, verbatim_map]

/-- Nothing in a word changes, so a keyword stays one. -/
theorem ofWord_map (h : KeepsAscii change) {word : List Char}
    (hword : ∀ char ∈ word, IsAscii char) :
    ofWord (word.map change) = (ofWord word).map change := by
  rw [ofWord, ofWord, ← verbatim_map, h.map_eq_self hword]

theorem ofSingle_map (h : KeepsAscii change) (char : Char) :
    ofSingle (change char) = (ofSingle char).map change := by
  rw [ofSingle, ofSingle, Symbol.ofChar?_map h]
  cases Symbol.ofChar? char <;> rfl

theorem ofSymbol_map (h : KeepsAscii change) (char : Char) (rest : List Char) :
    ofSymbol (change char) (rest.map change) = (ofSymbol char rest).map change := by
  cases rest with
  | nil => exact ofSingle_map h char
  | cons second rest =>
    rw [List.map_cons, ofSymbol, ofSymbol, Symbol.ofPair?_map h]
    cases Symbol.ofPair? char second with
    | none => exact ofSingle_map h char
    | some sign => rfl

theorem readPlain_map (h : KeepsAscii change) (char : Char) (rest : List Char) :
    readPlain (change char) (rest.map change) = (readPlain char rest).map change := by
  have hword : Word.read (change char :: rest.map change)
      = (Word.read (char :: rest)).map change := Word.read_map h (char :: rest)
  have hnumeral : Numeral.read (change char :: rest.map change)
      = (Numeral.read (char :: rest)).map change := Numeral.read_map h (char :: rest)
  have hstart : Word.isStart (change char) = Word.isStart char :=
    h.apply_eq (fun _ hpasses => Word.isAscii_of_isPart (Word.isPart_of_isStart hpasses)) char
  have hdigit : (change char).isDigit = char.isDigit :=
    h.apply_eq (fun _ => isAscii_of_isDigit) char
  have hdouble : IsAscii '"' := by decide
  have hsingle : IsAscii '\'' := by decide
  rw [readPlain, readPlain, hword, hnumeral, hstart, hdigit]
  simp only [h.eq_iff hdouble, h.eq_iff hsingle]
  split_ifs with _ _ hquote hquote
  · exact ofWord_map h fun _ => Word.isAscii_of_mem_read
  · exact ofNumeral_map _
  · rw [hquote, h.eq_self _ hdouble, Quotation.read_map h hdouble]
    exact ofString_map _
  · rw [hquote, h.eq_self _ hsingle, Quotation.read_map h hsingle]
    exact ofCharacter_map _
  · exact ofSymbol_map h char rest

/-- Reading a changed text is changing what is read. -/
theorem read_map (h : KeepsAscii change) (text : List Char) :
    read (text.map change) = (read text).map change := by
  cases text with
  | nil => rfl
  | cons char rest =>
    have hstyle : Comment.style? (change char :: rest.map change) = Comment.style? (char :: rest) :=
      Comment.style?_map h (char :: rest)
    cases hfound : Comment.style? (char :: rest) with
    | some style =>
      have hread : Comment.read style (change char :: rest.map change)
          = (Comment.read style (char :: rest)).map change :=
        Comment.read_map h style (char :: rest)
      rw [List.map_cons, read_of_style? (hstyle.trans hfound), read_of_style? hfound, hread]
      exact ofComment_map _
    | none =>
      rw [List.map_cons, read_of_style?_none (hstyle.trans hfound), read_of_style?_none hfound]
      exact readPlain_map h char rest

/-! ## Where other characters can stand -/

theorem isAscii_of_mem_withDigits {introduction text : List Char} {char : Char}
    (hintroduction : ∀ char ∈ introduction, IsAscii char)
    (h : char ∈ Numeral.withDigits introduction text) : IsAscii char := by
  rcases Numeral.withDigits_cases introduction text with
    hnone | ⟨found, behind, hfound, -, -, heq⟩
  · rw [hnone] at h
    cases h
  · rw [heq, List.mem_append] at h
    exact h.elim (hintroduction char) fun hchar => isAscii_of_isDigit (hfound.2 char hchar)

theorem isAscii_of_mem_numeral {text : List Char} {char : Char}
    (h : char ∈ (Numeral.read text).text) : IsAscii char := by
  simp only [Numeral.read, Numeral.Parts.text, List.mem_append] at h
  rcases h with (hwhole | hfraction) | hexponent
  · exact isAscii_of_isDigit (List.mem_takeWhile_imp hwhole)
  · unfold Numeral.fraction at hfraction
    split at hfraction
    · refine isAscii_of_mem_withDigits (fun point hpoint => ?_) hfraction
      obtain rfl := List.mem_singleton.1 hpoint
      decide
    · cases hfraction
  · unfold Numeral.exponent at hexponent
    split at hexponent
    · next mark sign rest _ =>
      split_ifs at hexponent with hmark hsign
      · refine isAscii_of_mem_withDigits ?_ hexponent
        simpa using ⟨Numeral.isAscii_of_isExponentMark hmark, Numeral.isAscii_of_isSign hsign⟩
      · refine isAscii_of_mem_withDigits ?_ hexponent
        simpa using Numeral.isAscii_of_isExponentMark hmark
      · cases hexponent
    · cases hexponent

theorem isAscii_of_ofChar? {char : Char} {sign : Symbol} (h : Symbol.ofChar? char = some sign) :
    IsAscii char := by
  obtain ⟨front, back, hsingles, -⟩ := List.lookup_eq_some_iff.1 h
  exact Symbol.isAscii_of_mem_singles (char, sign) (by simp [hsingles])

theorem isAscii_of_ofPair? {first second : Char} {sign : Symbol}
    (h : Symbol.ofPair? first second = some sign) : IsAscii first ∧ IsAscii second := by
  obtain ⟨front, back, hpairs, -⟩ := List.lookup_eq_some_iff.1 h
  exact Symbol.isAscii_of_mem_pairs ((first, second), sign) (by simp [hpairs])

/-- A single character is a symbol only if it is an ASCII one. -/
theorem admitsAny_or_isAscii_ofSingle (char : Char) :
    (ofSingle char).kind.admitsAny = true ∨ ∀ other ∈ (ofSingle char).text, IsAscii other := by
  unfold ofSingle
  split
  · next sign hsign => exact .inr (by simpa [text] using isAscii_of_ofChar? hsign)
  · exact .inl rfl

theorem admitsAny_or_isAscii_ofSymbol (char : Char) (rest : List Char) :
    (ofSymbol char rest).kind.admitsAny = true
      ∨ ∀ other ∈ (ofSymbol char rest).text, IsAscii other := by
  unfold ofSymbol
  split
  · exact admitsAny_or_isAscii_ofSingle char
  · split
    · next sign hsign => exact .inr (by simpa [text] using isAscii_of_ofPair? hsign)
    · exact admitsAny_or_isAscii_ofSingle char

/-- What is read is ASCII text, or of a kind that says so. -/
theorem admitsAny_or_isAscii (text : List Char) :
    (read text).kind.admitsAny = true ∨ ∀ char ∈ (read text).text, IsAscii char := by
  cases text with
  | nil => exact .inr (by simp [Reading.text])
  | cons char rest =>
    rw [read]
    split
    · unfold ofComment
      split <;> exact .inl rfl
    · split_ifs
      · exact .inr fun _ => Word.isAscii_of_mem_read
      · exact .inr fun _ => isAscii_of_mem_numeral
      · unfold ofString
        split <;> exact .inl rfl
      · unfold ofCharacter
        split <;> exact .inl rfl
      · exact admitsAny_or_isAscii_ofSymbol char rest

/-- Nothing starts with a character that is not ASCII. -/
theorem read_of_not_isAscii {char : Char} (h : ¬ IsAscii char) (rest : List Char) :
    read (char :: rest) = .fault (.invalidCharacter char) [char] := by
  have hne : ∀ {sign}, IsAscii sign → char ≠ sign := fun hsign heq => h (heq ▸ hsign)
  have hstyle : Comment.style? (char :: rest) = none := by
    have hslash : char ≠ '/' := hne (by decide)
    simp [Comment.style?, hslash]
  have hstart : ¬ Word.isStart char = true :=
    fun hstart => h (Word.isAscii_of_isPart (Word.isPart_of_isStart hstart))
  have hdigit : ¬ char.isDigit = true := fun hdigit => h (isAscii_of_isDigit hdigit)
  have hsingle : ofSingle char = .fault (.invalidCharacter char) [char] := by
    have hnone : Symbol.ofChar? char = none :=
      Option.eq_none_iff_forall_ne_some.2 fun sign hsign => h (isAscii_of_ofChar? hsign)
    rw [ofSingle, hnone]
  rw [read_of_style?_none hstyle, readPlain, if_neg hstart, if_neg hdigit,
    if_neg (hne (by decide)), if_neg (hne (by decide))]
  cases rest with
  | nil => exact hsingle
  | cons second rest =>
    have hnone : Symbol.ofPair? char second = none :=
      Option.eq_none_iff_forall_ne_some.2 fun sign hsign => h (isAscii_of_ofPair? hsign).1
    rw [ofSymbol, hnone]
    exact hsingle

end Reading

/-- The blanks of a changed text are those of the text, with the changes in its comments. -/
theorem blanks_map {change : Char → Char} (h : KeepsAscii change) (keepComments : Bool)
    (text : List Char) :
    blanks keepComments (text.map change) = (blanks keepComments text).map change := by
  have hblank : ∀ char, isBlank (change char) = isBlank char :=
    h.apply_eq fun _ => isAscii_of_isBlank
  have hstyle : ∀ char (rest : List Char), Comment.style? (change char :: rest.map change)
      = Comment.style? (char :: rest) := fun char rest => Comment.style?_map h (char :: rest)
  have hcloses : ∀ char (rest : List Char), Comment.closes (change char :: rest.map change)
      = Comment.closes (char :: rest) := fun char rest => Comment.closes_map h (char :: rest)
  have hread : ∀ style char (rest : List Char),
      Comment.read style (change char :: rest.map change)
        = (Comment.read style (char :: rest)).map change :=
    fun style char rest => Comment.read_map h style (char :: rest)
  fun_induction blanks keepComments text with
  | case1 => exact blanks_nil keepComments
  | case2 char rest hfound ih =>
    rw [List.map_cons, blanks, hblank, if_pos hfound, ih, List.map_cons]
  | case3 char rest hfound style hstyle' hskip comment ih =>
    rw [List.map_cons, blanks, hblank, if_neg hfound, hstyle, hstyle']
    simp only [hcloses, hskip, if_true, hread, Comment.map, List.length_map, ← List.map_drop]
    rw [ih, List.map_append]
  | case4 char rest hfound style hstyle' hkeep =>
    rw [List.map_cons, blanks, hblank, if_neg hfound, hstyle, hstyle']
    simp only [hcloses, hkeep]
    rfl
  | case5 char rest hfound hstyle' =>
    rw [List.map_cons, blanks, hblank, if_neg hfound, hstyle, hstyle']
    rfl

/-- A character that is not ASCII is not passed over. -/
theorem blanks_of_not_isAscii {char : Char} (h : ¬ IsAscii char) (keepComments : Bool)
    (rest : List Char) : blanks keepComments (char :: rest) = [] := by
  rw [blanks_eq_nil_iff, Reading.read_of_not_isAscii h rest]
  exact ⟨Bool.eq_false_iff.2 fun hblank => h (isAscii_of_isBlank hblank), by rintro - ⟨⟩⟩

end Lexeme
end SourceLexer
