import SourceLexer.Cursor
import SourceLexer.Proofs.Lexeme.Fault

/-!
# The longest front of a form

Every reader takes as much text as it can.  `Longest` says what this means without any reading: a
front of a text has a given form, and no longer one has it.  Here the fronts that the readers take
are shown to be the longest ones of their grammars.

## Two things to show

A reader never goes back, so for every grammar there are two things to show.  What it takes has
the form, which its equations say.  And nothing longer has it: a front that goes on would have to
go on with what the reader has stopped at.  For numerals the second one is
`Numeral.length_text_le_read`, for quotations `Quotation.longest_run`.  Symbols are looked up in
tables and have a module of their own.

## Up to the end mark

The grammars are about all of a source, and reading is about the part of it in front of the first
end mark.  None of the forms has room for an end mark, so the two come to the same
(`Longest.append_beyond`).
-/

namespace SourceLexer
namespace Lexeme

/-- The longest front of a text that has a given form.  Whether a front has the form may depend on
what it leaves behind. -/
structure Longest (form : List Char → List Char → Prop) (text front behind : List Char) :
    Prop where
  text_eq : text = front ++ behind
  hasForm : form front behind
  length_le : ∀ other rest, text = other ++ rest → form other rest →
    other.length ≤ front.length

namespace Longest

variable {form : List Char → List Char → Prop} {text front behind : List Char}

/-- There is no more than one longest front. -/
theorem unique (h : Longest form text front behind) {other rest : List Char}
    (h' : Longest form text other rest) : front = other ∧ behind = rest := by
  have hle := h.length_le other rest h'.text_eq h'.hasForm
  have hge := h'.length_le front behind h.text_eq h.hasForm
  exact List.append_inj (h.text_eq.symm.trans h'.text_eq) (Nat.le_antisymm hge hle)

/-- The longest front on which all characters are of one kind. -/
theorem takeWhile (kind : Char → Bool) (text : List Char) :
    Longest (fun front _ => ∀ char ∈ front, kind char = true) text (text.takeWhile kind)
      (text.dropWhile kind) where
  text_eq := List.takeWhile_append_dropWhile.symm
  hasForm _ hchar := List.mem_takeWhile_imp hchar
  length_le := by
    rintro other rest rfl hother
    rw [List.takeWhile_append_of_pos hother, List.length_append]
    exact Nat.le_add_right _ _

end Longest

/-! ## Up to the end mark -/

section

variable {live beyond : List Char}

/-- A front without an end mark ends in front of the first one. -/
theorem isPrefix_of_endMark_notMem {front : List Char} (hfront : endMark ∉ front)
    (hbeyond : ∀ char ∈ beyond.head?, char = endMark) (h : front <+: live ++ beyond) :
    front <+: live := by
  rcases List.prefix_or_prefix_of_prefix h (List.prefix_append live beyond) with h' | ⟨more, rfl⟩
  · exact h'
  · rw [List.prefix_append_right_inj] at h
    cases more with
    | nil => rw [List.append_nil]
    | cons char more =>
      obtain ⟨rest, rfl⟩ := h
      obtain rfl : char = endMark := hbeyond char rfl
      exact absurd (List.mem_append_right live List.mem_cons_self) hfront

/-- Where a form has no room for an end mark, it does not matter what stands behind the first
one. -/
theorem Longest.append_beyond {form : List Char → Prop} {front behind : List Char}
    (h : Longest (fun front _ => form front) live front behind)
    (hform : ∀ front, form front → endMark ∉ front)
    (hbeyond : ∀ char ∈ beyond.head?, char = endMark) :
    Longest (fun front _ => form front) (live ++ beyond) front (behind ++ beyond) where
  text_eq := by rw [h.text_eq, List.append_assoc]
  hasForm := h.hasForm
  length_le := by
    intro other rest hsplit hother
    obtain ⟨rest, hrest⟩ :=
      isPrefix_of_endMark_notMem (hform other hother) hbeyond ⟨rest, hsplit.symm⟩
    exact h.length_le other rest hrest.symm hother

end

/-! ## Words -/

namespace Word

/-- A run of the characters that a word can go on with. -/
def IsRun (text : List Char) : Prop :=
  ∀ char ∈ text, isPart char = true

theorem IsRun.endMark_notMem {text : List Char} (h : IsRun text) : endMark ∉ text := by
  intro hmem
  exact absurd (h endMark hmem) (by decide)

/-- The word that is read is the longest run. -/
theorem longest_read (text : List Char) :
    Longest (fun front _ => IsRun front) text (read text) (text.dropWhile isPart) :=
  Longest.takeWhile isPart text

/-- The kind of a word is that of the keyword with its spelling, if there is one. -/
theorem kind_eq_keyword {keyword : Keyword} {word : List Char}
    (h : keyword.spelling = String.ofList word) : kind word = .keyword keyword := by
  have hall : ∀ keyword : Keyword, Keyword.ofText? keyword.spelling = some keyword := by
    intro keyword
    cases keyword <;> decide +kernel
  rw [kind, ← h, hall]

theorem kind_eq_identifier {word : List Char}
    (h : ∀ keyword : Keyword, keyword.spelling ≠ String.ofList word) :
    kind word = .identifier := by
  have hnone : Keyword.ofText? (String.ofList word) = none := by
    refine List.find?_eq_none.2 ?_
    intro keyword _
    simpa using h keyword
  rw [kind, hnone]

end Word

/-! ## Numerals -/

namespace Numeral

/-- A text that is written as the grammar of numerals has it. -/
def IsNumeral (text : List Char) : Prop :=
  ∃ parts : Parts, parts.WellFormed ∧ parts.text = text

/-! ### Each part by itself -/

theorem withDigits_append_of_isDigits (introduction : List Char) {found : List Char}
    (h : IsDigits found) (behind : List Char) :
    withDigits introduction (found ++ behind) = introduction ++ (found ++ digits behind) := by
  obtain ⟨char, rest, rfl⟩ := List.exists_cons_of_ne_nil h.1
  have hdigits : digits (char :: rest ++ behind) = char :: rest ++ digits behind :=
    List.takeWhile_append_of_pos h.2
  rw [withDigits, hdigits]
  rfl

/-- A fraction is read to its end at least. -/
theorem IsFraction.length_le {text : List Char} (h : IsFraction text) (behind : List Char) :
    text.length ≤ (fraction (text ++ behind)).length := by
  obtain ⟨found, hdigits, rfl⟩ := h
  have hread : fraction ('.' :: found ++ behind) = '.' :: (found ++ digits behind) :=
    withDigits_append_of_isDigits ['.'] hdigits behind
  rw [hread, List.length_cons, List.length_cons, List.length_append]
  omega

/-- So is an exponent. -/
theorem IsExponent.length_le {text : List Char} (h : IsExponent text) (behind : List Char) :
    text.length ≤ (exponent (text ++ behind)).length := by
  obtain ⟨mark, sign, found, hmark, hsign, hdigits, rfl⟩ := h
  have hread : exponent (mark :: (sign ++ found) ++ behind)
      = mark :: (sign ++ (found ++ digits behind)) := by
    rcases hsign with rfl | ⟨char, hchar, rfl⟩
    · obtain ⟨first, rest, rfl⟩ := List.exists_cons_of_ne_nil hdigits.1
      have hfirst : isSign first = false := isSign_of_isDigit (hdigits.2 first List.mem_cons_self)
      have hread := withDigits_append_of_isDigits [mark] hdigits behind
      simpa [exponent, hmark, hfirst] using hread
    · have hread := withDigits_append_of_isDigits [mark, char] hdigits behind
      simpa [exponent, hmark, hchar] using hread
  rw [hread]
  simp only [List.length_cons, List.length_append]
  omega

/-! ### The numeral as a whole -/

/-- No numeral at the front of a text is longer than the one that is read there. -/
theorem length_text_le_read {parts : Parts} (hparts : parts.WellFormed) (behind : List Char) :
    parts.text.length ≤ (read (parts.text ++ behind)).text.length := by
  obtain ⟨whole, fraction, exponent⟩ := parts
  have hdigits : ∀ char ∈ whole, char.isDigit = true := hparts.whole.2
  -- every part but the last is read exactly, since the next one starts with no digit
  rcases hparts.exponent with (rfl : exponent = []) | (hexponent : IsExponent exponent)
  · rcases hparts.fraction with (rfl : fraction = []) | (hfraction : IsFraction fraction)
    · have hwhole : digits (whole ++ behind) = whole ++ digits behind :=
        List.takeWhile_append_of_pos hdigits
      simp only [read, Parts.text, List.append_nil, hwhole, List.length_append]
      omega
    · have hlength := hfraction.length_le behind
      have hwhole : digits (whole ++ (fraction ++ behind)) = whole := by
        obtain ⟨found, -, rfl⟩ := hfraction
        exact digits_append hdigits (startsNoDigit_of_cons (by decide) _)
      simp only [read, Parts.text, List.append_nil, List.append_assoc, hwhole, List.drop_left,
        List.length_append]
      omega
  · have hlength := hexponent.length_le behind
    have hnext := hexponent.startsNoDigit behind
    rcases hparts.fraction with (rfl : fraction = []) | (hfraction : IsFraction fraction)
    · have hwhole : digits (whole ++ (exponent ++ behind)) = whole := digits_append hdigits hnext
      have hnone : Numeral.fraction (exponent ++ behind) = [] := hexponent.fraction_append behind
      simp only [read, Parts.text, List.append_nil, List.append_assoc, hwhole, List.drop_left,
        hnone, List.length_append, List.length_nil, List.drop_zero]
      omega
    · have hexact : Numeral.fraction (fraction ++ (exponent ++ behind)) = fraction :=
        fraction_append hfraction hnext
      have hwhole : digits (whole ++ (fraction ++ (exponent ++ behind))) = whole := by
        obtain ⟨found, -, rfl⟩ := hfraction
        exact digits_append hdigits (startsNoDigit_of_cons (by decide) _)
      simp only [read, Parts.text, List.append_assoc, hwhole, List.drop_left, hexact,
        List.length_append]
      omega

/-- The numeral that is read is the longest one. -/
theorem longest_read {parts : Parts} (hparts : parts.WellFormed) {behind : List Char}
    (hstops : parts.Stops behind) :
    Longest (fun front _ => IsNumeral front) (parts.text ++ behind) parts.text behind where
  text_eq := rfl
  hasForm := ⟨parts, hparts, rfl⟩
  length_le := by
    rintro other rest hsplit ⟨parts', hparts', rfl⟩
    have hle := length_text_le_read hparts' rest
    rwa [← hsplit, read_append hparts hstops] at hle

/-- A numeral is made up of its parts in one way only. -/
theorem Parts.WellFormed.eq_of_text {parts parts' : Parts} (h : parts.WellFormed)
    (h' : parts'.WellFormed) (htext : parts.text = parts'.text) : parts = parts' := by
  have hread := read_append h (.nil parts)
  have hread' := read_append h' (.nil parts')
  rw [htext] at hread
  exact hread.symm.trans hread'

/-- A fraction and an exponent start with a character that is no digit, so a numeral is all digits
exactly if it has neither. -/
theorem Parts.WellFormed.forall_isDigit_iff {parts : Parts} (h : parts.WellFormed) :
    (∀ char ∈ parts.text, char.isDigit = true) ↔ parts.fraction = [] ∧ parts.exponent = [] := by
  constructor
  · intro hall
    constructor
    · rcases h.fraction with hnone | ⟨found, -, hfraction⟩
      · exact hnone
      · exact absurd (hall '.' (by simp [Parts.text, hfraction])) (by decide)
    · rcases h.exponent with hnone | hexponent
      · exact hnone
      · obtain ⟨first, rest, hfirst⟩ : ∃ first rest, parts.exponent = first :: rest := by
          obtain ⟨mark, sign, found, -, -, -, htext⟩ := hexponent
          exact ⟨mark, _, htext⟩
        have hno : first.isDigit = false := by
          have hstarts := hexponent.startsNoDigit []
          rw [hfirst] at hstarts
          exact hstarts first rfl
        have hdigit := hall first (by simp [Parts.text, hfirst])
        rw [hno] at hdigit
        cases hdigit
  · rintro ⟨hfraction, hexponent⟩
    simpa [Parts.text, hfraction, hexponent] using h.whole.2

theorem IsDigits.endMark_notMem {text : List Char} (h : IsDigits text) : endMark ∉ text := by
  intro hmem
  exact absurd (h.2 endMark hmem) (by decide)

theorem IsNumeral.endMark_notMem {text : List Char} (h : IsNumeral text) : endMark ∉ text := by
  obtain ⟨parts, hparts, rfl⟩ := h
  have hwhole := hparts.whole.endMark_notMem
  have hfraction : endMark ∉ parts.fraction := by
    rcases hparts.fraction with hnone | ⟨found, hdigits, hfraction⟩
    · simp [hnone]
    · rw [hfraction, List.mem_cons, not_or]
      exact ⟨by decide, hdigits.endMark_notMem⟩
  have hexponent : endMark ∉ parts.exponent := by
    rcases hparts.exponent with hnone | ⟨mark, sign, found, hmark, hsign, hdigits, hexponent⟩
    · simp [hnone]
    · rw [hexponent, List.mem_cons, List.mem_append, not_or, not_or]
      refine ⟨?_, ?_, hdigits.endMark_notMem⟩
      · rintro rfl
        exact absurd hmark (by decide)
      · rcases hsign with rfl | ⟨char, hchar, rfl⟩
        · exact List.not_mem_nil
        · rw [List.mem_singleton]
          rintro rfl
          exact absurd hchar (by decide)
  simp [Parts.text, hwhole, hfraction, hexponent]

end Numeral

/-! ## Quotations -/

namespace Quotation

/-- A run of items, none of which takes in an end mark. -/
def IsRun (quote : Char) (text : List Char) : Prop :=
  Items quote text ∧ endMark ∉ text

/-- A quotation with its closing quote. -/
def IsClosed (quote : Char) (text : List Char) : Prop :=
  ∃ items, IsRun quote items ∧ text = quote :: (items ++ [quote])

/-- What a quotation takes up behind its items if it does not close: a backslash that has nothing
to escape. -/
def dangling : List Char → List Char
  | ['\\'] => ['\\']
  | '\\' :: next :: _ => if next = endMark then ['\\'] else []
  | _ => []

/-- No item stands at the front of the text. -/
inductive Halts (quote : Char) : List Char → Prop where
  | ended : Halts quote []
  | closing {rest : List Char} : Halts quote (quote :: rest)
  | lineFeed {rest : List Char} : Halts quote ('\n' :: rest)
  | mark {rest : List Char} : Halts quote (endMark :: rest)
  | backslash {rest : List Char} : (∀ char ∈ rest.head?, char = endMark) →
      Halts quote ('\\' :: rest)

variable {quote : Char} {items behind : List Char}

/-- What is left of a run behind some of its items is one. -/
theorem IsRun.of_append (front : List Char) (hitems : Items quote items)
    (h : IsRun quote (front ++ items)) : IsRun quote items :=
  ⟨hitems, fun hmem => h.2 (List.mem_append_right front hmem)⟩

/-- A run that starts where no item does is empty. -/
theorem Halts.eq_nil_of_isRun (hslash : quote ≠ '\\') {other rest : List Char}
    (h : Halts quote (other ++ rest)) (hother : IsRun quote other) : other = [] := by
  obtain ⟨hitems, hmark⟩ := hother
  cases hitems with
  | nil => rfl
  | plain hquote hfeed hback _ =>
    cases h with
    | closing => exact absurd rfl hquote
    | lineFeed => exact absurd rfl hfeed
    | mark => exact absurd List.mem_cons_self hmark
    | backslash _ => exact absurd rfl hback
  | escaped _ =>
    cases h with
    | closing => exact absurd rfl hslash
    | backslash hnext =>
      obtain rfl := hnext _ rfl
      exact absurd (List.mem_cons_of_mem _ List.mem_cons_self) hmark

/-- A run of items that halts is the longest one. -/
theorem longest_run (hslash : quote ≠ '\\') (hitems : IsRun quote items)
    (hhalts : Halts quote behind) :
    Longest (fun front _ => IsRun quote front) (items ++ behind) items behind where
  text_eq := rfl
  hasForm := hitems
  length_le := by
    obtain ⟨hitems, -⟩ := hitems
    -- two runs at the front of one text take their items in step
    induction hitems with
    | nil =>
      rintro other rest rfl hother
      rw [hhalts.eq_nil_of_isRun hslash hother]
    | @plain char items hquote hfeed hback _ ih =>
      intro other rest hsplit hother
      have hrun := hother.1
      cases hrun with
      | nil => exact Nat.zero_le _
      | @plain _ more _ _ _ hmore =>
        obtain ⟨-, hsplit⟩ := List.cons.inj hsplit
        exact Nat.succ_le_succ (ih more rest hsplit (.of_append [_] hmore hother))
      | escaped _ => exact absurd (List.cons.inj hsplit).1 hback
    | @escaped char items _ ih =>
      intro other rest hsplit hother
      have hrun := hother.1
      cases hrun with
      | nil => exact Nat.zero_le _
      | plain _ _ hback _ => exact absurd (List.cons.inj hsplit).1.symm hback
      | @escaped _ more hmore =>
        obtain ⟨-, hsplit⟩ := List.cons.inj hsplit
        obtain ⟨-, hsplit⟩ := List.cons.inj hsplit
        have hle := ih more rest hsplit (.of_append [_, _] hmore hother)
        exact Nat.succ_le_succ (Nat.succ_le_succ hle)

theorem IsClosed.endMark_notMem (hmark : quote ≠ endMark) {text : List Char}
    (h : IsClosed quote text) : endMark ∉ text := by
  obtain ⟨items, hitems, rfl⟩ := h
  simp [hitems.2, hmark.symm]

/-- What is read at the front of a closed quotation is the quotation. -/
theorem read_of_isClosed (hslash : quote ≠ '\\') {text rest : List Char}
    (h : IsClosed quote text) (hfront : text <+: quote :: rest) :
    read quote rest = ⟨text, true⟩ := by
  obtain ⟨items, hitems, rfl⟩ := h
  obtain ⟨more, hmore⟩ := hfront
  obtain rfl : items ++ quote :: more = rest := by simpa using hmore
  rw [read, readItems_closed hslash hitems.1]
  rfl

/-- Nothing dangles in front of an end mark. -/
theorem dangling_beyond {beyond : List Char} (h : ∀ char ∈ beyond.head?, char = endMark) :
    dangling beyond = [] := by
  cases beyond with
  | nil => rfl
  | cons char beyond =>
    obtain rfl : char = endMark := h char rfl
    rfl

theorem dangling_backslash {beyond : List Char} (h : ∀ char ∈ beyond.head?, char = endMark) :
    dangling ('\\' :: beyond) = ['\\'] := by
  cases beyond with
  | nil => rfl
  | cons char beyond =>
    obtain rfl : char = endMark := h char rfl
    rfl

theorem Halts.beyond {beyond : List Char} (h : ∀ char ∈ beyond.head?, char = endMark) :
    Halts quote beyond := by
  cases beyond with
  | nil => exact .ended
  | cons char beyond =>
    obtain rfl : char = endMark := h char rfl
    exact .mark

/-- The two ways in which reading a quotation ends, seen in a text that goes on beyond an end
mark. -/
theorem read_cases (hslash : quote ≠ '\\') (hfeed : quote ≠ '\n') {rest beyond : List Char}
    (hrest : endMark ∉ rest) (hbeyond : ∀ char ∈ beyond.head?, char = endMark) :
    (∃ text, IsClosed quote text ∧ text <+: quote :: rest)
      ∨ ∃ items behind, IsRun quote items ∧ Halts quote behind ∧ rest ++ beyond = items ++ behind
        ∧ (∀ char ∈ (behind.drop (dangling behind).length).head?, char = '\n' ∨ char = endMark)
        ∧ read quote rest = ⟨quote :: (items ++ dangling behind), false⟩ := by
  obtain ⟨items, hitems, hends⟩ := exists_items quote rest
  have hrun : IsRun quote items := by
    refine ⟨hitems, ?_⟩
    rcases hends with ⟨more, rfl⟩ | ⟨more, rfl⟩ | rfl | rfl <;> simp_all
  rcases hends with ⟨more, rfl⟩ | ⟨more, rfl⟩ | rfl | rfl
  · exact .inl ⟨_, ⟨items, hrun, rfl⟩, more, by simp⟩
  · have hnone : dangling ('\n' :: (more ++ beyond)) = [] := rfl
    refine .inr ⟨items, '\n' :: (more ++ beyond), hrun, .lineFeed, by simp, ?_, ?_⟩
    · intro char hchar
      exact .inl (Option.some.inj hchar).symm
    · rw [read, readItems_lineFeed hslash hfeed hitems, hnone, List.append_nil]
      rfl
  · have hnone : dangling beyond = [] := dangling_beyond hbeyond
    refine .inr ⟨rest, beyond, hrun, .beyond hbeyond, rfl, ?_, ?_⟩
    · rw [hnone]
      exact fun char hchar => .inr (hbeyond char hchar)
    · rw [read, readItems_end hslash hitems, hnone, List.append_nil]
      rfl
  · have hlone : dangling ('\\' :: beyond) = ['\\'] := dangling_backslash hbeyond
    refine .inr ⟨items, '\\' :: beyond, hrun, .backslash hbeyond, by simp, ?_, ?_⟩
    · rw [hlone]
      exact fun char hchar => .inr (hbeyond char hchar)
    · rw [read, readItems_backslash hslash hitems, hlone]
      rfl

end Quotation

end Lexeme

end SourceLexer
