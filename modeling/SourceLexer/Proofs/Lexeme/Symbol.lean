import SourceLexer.Proofs.Lexeme.Longest

/-!
# Which symbols are read

Symbols are recognised by two tables, and how they are written is a third.  `Symbol.recognised`
says that these agree: the spelling of every symbol is found in one of the tables, and what is
found there is the symbol itself, except that a star is never a pointer and an ampersand never an
address (`Symbol.asRead`).

So a reading takes the longest spelling at the front of a text (`Reading.ofSymbol_cases`).  That
two characters are tried before one is all it needs, because no spelling is longer than that.
-/

namespace SourceLexer

/-! ## Spellings -/

namespace Symbol

/-- The symbol as which the text of a symbol is read. -/
def asRead : Symbol → Symbol
  | .pointer => .multiply
  | .address => .bitwiseAnd
  | sign => sign

theorem asRead_eq_self_iff {sign : Symbol} :
    sign.asRead = sign ↔ sign ≠ .pointer ∧ sign ≠ .address := by
  cases sign <;> decide

/-- The symbol that the two tables have for a text. -/
def ofText? : List Char → Option Symbol
  | [char] => ofChar? char
  | [first, second] => ofPair? first second
  | _ => none

/-- Every spelling is found again in the tables. -/
theorem ofText?_spelling (sign : Symbol) : ofText? sign.spelling.toList = some sign.asRead := by
  have hall : ∀ sign ∈ all, ofText? sign.spelling.toList = some sign.asRead := by
    decide +kernel
  exact hall sign sign.mem_all

/-- A spelling has one character or two, and is found by them. -/
theorem recognised (sign : Symbol) :
    (∃ char, sign.spelling.toList = [char] ∧ ofChar? char = some sign.asRead)
      ∨ ∃ first second, sign.spelling.toList = [first, second]
        ∧ ofPair? first second = some sign.asRead := by
  have hfound := sign.ofText?_spelling
  rcases htext : sign.spelling.toList with _ | ⟨first, _ | ⟨second, _ | ⟨third, rest⟩⟩⟩
  · rw [htext] at hfound
    cases hfound
  · rw [htext] at hfound
    exact .inl ⟨first, rfl, hfound⟩
  · rw [htext] at hfound
    exact .inr ⟨first, second, rfl, hfound⟩
  · rw [htext] at hfound
    cases hfound

/-- Nothing in the tables is kept for a parser. -/
theorem asRead_of_ofChar? {char : Char} {sign : Symbol} (h : ofChar? char = some sign) :
    sign.asRead = sign := by
  have hall : ∀ entry ∈ singles, entry.2.asRead = entry.2 := by decide
  obtain ⟨front, back, hsingles, -⟩ := List.lookup_eq_some_iff.1 h
  exact hall (char, sign) (by simp [hsingles])

theorem asRead_of_ofPair? {first second : Char} {sign : Symbol}
    (h : ofPair? first second = some sign) : sign.asRead = sign := by
  have hall : ∀ entry ∈ pairs, entry.2.asRead = entry.2 := by decide
  obtain ⟨front, back, hpairs, -⟩ := List.lookup_eq_some_iff.1 h
  exact hall ((first, second), sign) (by simp [hpairs])

/-- Symbols with one spelling are read as one. -/
theorem asRead_eq_of_spelling_eq {first second : Symbol} (h : first.spelling = second.spelling) :
    first.asRead = second.asRead := by
  have hfound := first.ofText?_spelling
  rw [h, second.ofText?_spelling] at hfound
  exact (Option.some.inj hfound).symm

/-- The text of some symbol. -/
def IsSpelling (text : List Char) : Prop :=
  ∃ sign : Symbol, sign.spelling.toList = text

theorem IsSpelling.length_le {text : List Char} (h : IsSpelling text) : text.length ≤ 2 := by
  obtain ⟨sign, rfl⟩ := h
  rcases sign.recognised with ⟨char, htext, -⟩ | ⟨first, second, htext, -⟩ <;> simp [htext]

theorem IsSpelling.endMark_notMem {text : List Char} (h : IsSpelling text) : endMark ∉ text := by
  have hall : ∀ sign ∈ all, endMark ∉ sign.spelling.toList := by decide +kernel
  obtain ⟨sign, rfl⟩ := h
  exact hall sign sign.mem_all

end Symbol

/-! ## Reading a symbol -/

namespace Lexeme.Reading

variable {char second : Char} {rest : List Char} {sign : Symbol}

theorem ofSymbol_of_ofPair? (h : Symbol.ofPair? char second = some sign) :
    ofSymbol char (second :: rest) = .token (.symbol sign) none sign.spelling.toList := by
  rw [ofSymbol, h, spelling_of_ofPair? h, String.toList_ofList]

theorem ofSingle_of_ofChar? (h : Symbol.ofChar? char = some sign) :
    ofSingle char = .token (.symbol sign) none sign.spelling.toList := by
  rw [ofSingle, h, spelling_of_ofChar? h, String.toList_ofList]

/-- A symbol of two characters is the longest spelling, since there are no longer ones. -/
theorem longest_of_ofPair? (h : Symbol.ofPair? char second = some sign) :
    Longest (fun front _ => Symbol.IsSpelling front) (char :: second :: rest) sign.spelling.toList
      rest where
  text_eq := by rw [spelling_of_ofPair? h, String.toList_ofList]; rfl
  hasForm := ⟨sign, rfl⟩
  length_le _ _ _ hother := by
    rw [spelling_of_ofPair? h, String.toList_ofList]
    exact hother.length_le

/-- Where no symbol of two characters stands, a spelling is one character long. -/
theorem length_le_one_of_isSpelling
    (h : ∀ second more, rest = second :: more → Symbol.ofPair? char second = none)
    {other behind : List Char} (hsplit : char :: rest = other ++ behind)
    (hother : Symbol.IsSpelling other) : other.length ≤ 1 := by
  obtain ⟨sign, rfl⟩ := hother
  rcases sign.recognised with ⟨first, htext, -⟩ | ⟨first, second, htext, hfound⟩
  · simp [htext]
  · rw [htext] at hsplit
    obtain ⟨rfl, hrest⟩ := List.cons.inj hsplit
    rw [h second behind hrest] at hfound
    cases hfound

/-- What is read where a symbol can stand: the longest spelling, or the character if there is
none. -/
theorem ofSymbol_cases (char : Char) (rest : List Char) :
    (∃ sign : Symbol, sign.asRead = sign
        ∧ ofSymbol char rest = .token (.symbol sign) none sign.spelling.toList
        ∧ ∃ behind, Longest (fun front _ => Symbol.IsSpelling front) (char :: rest)
            sign.spelling.toList behind)
      ∨ (ofSymbol char rest = .fault (.invalidCharacter char) [char]
        ∧ ∀ sign : Symbol, ¬ sign.spelling.toList <+: char :: rest) := by
  by_cases hpair : ∃ second more sign, rest = second :: more
      ∧ Symbol.ofPair? char second = some sign
  · obtain ⟨second, more, sign, rfl, hsign⟩ := hpair
    exact .inl ⟨sign, Symbol.asRead_of_ofPair? hsign, ofSymbol_of_ofPair? hsign, more,
      longest_of_ofPair? hsign⟩
  · have hnone : ∀ second more, rest = second :: more → Symbol.ofPair? char second = none := by
      intro second more hrest
      rw [Option.eq_none_iff_forall_ne_some]
      exact fun sign hsign => hpair ⟨second, more, sign, hrest, hsign⟩
    have hsingle : ofSymbol char rest = ofSingle char := by
      cases rest with
      | nil => rfl
      | cons second more => rw [ofSymbol, hnone second more rfl]
    cases hchar : Symbol.ofChar? char with
    | some sign =>
      have htext : sign.spelling.toList = [char] := by
        rw [spelling_of_ofChar? hchar, String.toList_ofList]
      refine .inl ⟨sign, Symbol.asRead_of_ofChar? hchar, ?_, rest, ?_, ⟨sign, rfl⟩, ?_⟩
      · rw [hsingle, ofSingle_of_ofChar? hchar]
      · rw [htext]
        rfl
      · intro other behind hsplit hother
        rw [htext]
        exact length_le_one_of_isSpelling hnone hsplit hother
    | none =>
      refine .inr ⟨by rw [hsingle, ofSingle, hchar], ?_⟩
      rintro sign ⟨behind, hsplit⟩
      have hhead : sign.spelling.toList.head? = some char := by
        rcases sign.recognised with ⟨first, htext, -⟩ | ⟨first, second, htext, -⟩
        · rw [htext] at hsplit ⊢
          exact congrArg some (List.cons.inj hsplit).1
        · rw [htext] at hsplit ⊢
          exact congrArg some (List.cons.inj hsplit).1
      have hsome := isSome_ofChar?_of_head?_spelling hhead
      rw [hchar] at hsome
      cases hsome

/-- Nothing is ever read as a pointer or as an address. -/
theorem asRead_of_kind_read {text : List Char} (h : (read text).kind = .symbol sign) :
    sign.asRead = sign := by
  cases text with
  | nil => cases h
  | cons char rest =>
    rcases read_cases char rest with ⟨comment, behind, htext, hcomplete⟩ | hopen | hstyle
    · rw [htext, read_of_complete hcomplete] at h
      cases h
    · rw [hopen] at h
      cases h
    · rw [read_of_style?_none hstyle] at h
      unfold readPlain at h
      split_ifs at h
      · unfold ofWord Word.kind at h
        split at h <;> cases h
      · cases h
      · unfold ofString at h
        split at h <;> cases h
      · unfold ofCharacter at h
        split at h <;> cases h
      · rcases ofSymbol_cases char rest with ⟨found, hread, hfound, -⟩ | ⟨hfault, -⟩
        · rw [hfound] at h
          cases h
          exact hread
        · rw [hfault] at h
          cases h

end Lexeme.Reading

end SourceLexer
