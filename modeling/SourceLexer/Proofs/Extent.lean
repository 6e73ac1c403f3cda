import SourceLexer.Proofs.Lexeme.Symbol
import SourceLexer.Proofs.Policy
import SourceLexer.Proofs.Skipping

/-!
# How far a token goes

A call for a token takes up a text that starts behind the blanks.  How far that text goes is a
matter of the grammar of the token alone: literals, words and symbols are the longest fronts that
the rest of the source has of their form.  The rest of the source is taken as it is here, an end
mark and what follows it included.

## What a call does with the text

`Lexer.Step.Returns` and `Lexer.Step.Reports` are the two ways in which such a call can end, with a
token or with something bad.  In both of them the lexer comes to stand right behind the text.  What
becomes of a report depends on the options and on the collector; where the text ends does not.

So all that is left to find out is what the reading at the front of the text is
(`Lexer.returns_next` and `Lexer.reports_next`), and this is decided by the first character.
-/

namespace SourceLexer

open Lexeme

/-! ## Which reader applies -/

namespace Lexeme

theorem Word.isStart_of_isDigit {char : Char} (h : char.isDigit = true) :
    Word.isStart char = false := by
  rw [← Bool.not_eq_true]
  intro hstart
  rw [Char.isDigit, Bool.and_eq_true, decide_eq_true_eq, decide_eq_true_eq] at h
  have hle : char.toNat ≤ 57 := h.2
  simp only [Word.isStart, Bool.or_eq_true, decide_eq_true_eq] at hstart
  rcases hstart with hletter | rfl
  · have hbounds := Word.bounds_of_isAlpha hletter
    omega
  · exact absurd hle (by decide)

/-- No comment is read where the source has no beginning of one. -/
theorem Comment.style?_eq_none {live beyond : List Char}
    (h : ∀ opener ∈ [['/', '/'], ['/', '*']], ¬ opener <+: live ++ beyond) :
    Comment.style? live = none := by
  cases hstyle : Comment.style? live with
  | none => rfl
  | some style =>
    rcases Comment.eq_cons_of_style? hstyle with ⟨-, rest, rfl⟩ | ⟨-, rest, rfl⟩
    · exact absurd ⟨rest ++ beyond, rfl⟩ (h ['/', '/'] (by simp))
    · exact absurd ⟨rest ++ beyond, rfl⟩ (h ['/', '*'] (by simp))

/-- The literal that stands between two such quotes. -/
def Quotation.form (quote : Char) : Literal :=
  if quote = '"' then .string else .character

/-- What is wrong with a quotation that does not close. -/
def Quotation.unterminated (quote : Char) (text : List Char) : Diagnostic.Cause :=
  if quote = '"' then .unterminatedString (String.ofList text)
  else .unterminatedCharacter (String.ofList text)

theorem eq_quote_of_isQuote {quote : Char} (h : isQuote quote = true) :
    quote = '"' ∨ quote = '\'' := by
  simpa [isQuote] using h

namespace Reading

variable {char : Char}

theorem style?_none_of_ne_slash (h : char ≠ '/') (rest : List Char) :
    Comment.style? (char :: rest) = none := by
  simp [Comment.style?, h]

theorem read_of_isDigit (h : char.isDigit = true) (rest : List Char) :
    read (char :: rest) = ofNumeral (Numeral.read (char :: rest)) := by
  have hslash : char ≠ '/' := by
    rintro rfl
    exact absurd h (by decide)
  have hstart := Word.isStart_of_isDigit h
  rw [read_of_style?_none (style?_none_of_ne_slash hslash rest), readPlain,
    if_neg (by simp [hstart]), if_pos h]

theorem read_of_isStart (h : Word.isStart char = true) (rest : List Char) :
    read (char :: rest) = ofWord (Word.read (char :: rest)) := by
  have hslash : char ≠ '/' := by
    rintro rfl
    exact absurd h (by decide)
  rw [read_of_style?_none (style?_none_of_ne_slash hslash rest), readPlain, if_pos h]

/-- Whatever starts no other lexeme has to be a symbol. -/
theorem read_of_not_isStart {rest : List Char} (hstyle : Comment.style? (char :: rest) = none)
    (hstart : Word.isStart char = false) (hdigit : char.isDigit = false)
    (hquote : isQuote char = false) : read (char :: rest) = ofSymbol char rest := by
  have hquotes : char ≠ '"' ∧ char ≠ '\'' := by simpa [isQuote] using hquote
  rw [read_of_style?_none hstyle, readPlain, if_neg (by simp [hstart]), if_neg (by simp [hdigit]),
    if_neg hquotes.1, if_neg hquotes.2]

section

variable {quote : Char} {rest text : List Char}

theorem read_of_closed (h : isQuote quote = true)
    (hread : Quotation.read quote rest = ⟨text, true⟩) :
    read (quote :: rest) = verbatim (.literal (Quotation.form quote)) text := by
  rcases eq_quote_of_isQuote h with rfl | rfl
  · show ofString (Quotation.read '"' rest) = _
    rw [hread]
    rfl
  · show ofCharacter (Quotation.read '\'' rest) = _
    rw [hread]
    rfl

theorem read_of_open (h : isQuote quote = true)
    (hread : Quotation.read quote rest = ⟨text, false⟩) :
    read (quote :: rest) = .fault (Quotation.unterminated quote text) text := by
  rcases eq_quote_of_isQuote h with rfl | rfl
  · show ofString (Quotation.read '"' rest) = _
    rw [hread]
    rfl
  · show ofCharacter (Quotation.read '\'' rest) = _
    rw [hread]
    rfl

end

end Reading
end Lexeme

/-! ## The two ways in which a call ends -/

namespace Lexer

/-- A call that takes up a text at the place where a lexer stands. -/
structure Step.Takes (step : Step Token) (start : Lexer) (text : List Char) : Prop where
  index_eq : step.lexer.cursor.index = start.cursor.index + text.length
  lexer_eq : step.lexer = { start with cursor := start.cursor.advanceBy text.length }

/-- A call that returns a token for the text.  The token stands where the text starts. -/
structure Step.Returns (step : Step Token) (start : Lexer) (held : Collector) (text : List Char)
    (kind : Token.Kind) (lexeme : Option String) : Prop extends Step.Takes step start text where
  outcome_eq : step.outcome =
    .ok ⟨kind, lexeme, start.cursor.line, start.cursor.column, start.options.filename⟩
  collector_eq : step.collector = held

/-- A call that reports the text as bad.  The diagnostic has the cause, the place where the text
starts, and the line of the source there.  The call fails with it if it is strict; otherwise the
diagnostic is held, and the call returns an error unless the collector is full then. -/
structure Step.Reports (step : Step Token) (start : Lexer) (held : Collector) (text : List Char)
    (cause : Diagnostic.Cause) : Prop extends Step.Takes step start text where
  lexeme_eq : cause.lexeme = some (String.ofList text)
  strict : start.options.strict = true →
    step.outcome = .error (.lexical
        ⟨cause, some ⟨start.options.filename, start.cursor.line, start.cursor.column⟩,
          some (String.ofList start.cursor.lineText)⟩)
      ∧ step.collector = held
  lenient : start.options.strict = false →
    step.collector = held.push
        ⟨cause, some ⟨start.options.filename, start.cursor.line, start.cursor.column⟩,
          some (String.ofList start.cursor.lineText)⟩
      ∧ (∀ limit, held.limit = some limit → limit ≤ held.size + 1 →
          step.outcome = .error (.limitReached limit))
      ∧ ((∀ limit, held.limit = some limit → held.size + 1 < limit) →
          step.outcome = .ok ⟨.error, some (String.ofList text), start.cursor.line,
            start.cursor.column, start.options.filename⟩)

/-- Behind the text the source goes on with what is behind the text. -/
theorem Step.Takes.drop_eq {step : Step Token} {start : Lexer} {source text behind : List Char}
    (h : step.Takes start text) (hsource : source.drop start.cursor.index = text ++ behind) :
    source.drop step.lexer.cursor.index = behind := by
  rw [h.index_eq, ← List.drop_drop, hsource, List.drop_left]

section

variable {lexer start : Lexer}

/-- Behind the blanks a scan reads what is there. -/
theorem scan_of_skipBlanks (h : lexer.skipBlanks = .ok start) :
    start.cursor.scan start.options
      = Scan.ofReading start.options start.cursor (Reading.read start.cursor.live) := by
  obtain ⟨-, rfl⟩ := eq_of_skipBlanks h
  rw [Cursor.scan, Cursor.skipBlanks_skipBlanks]

/-- What a call comes to is settled by what is read behind the blanks. -/
theorem next_eq_of_skipBlanks (h : lexer.skipBlanks = .ok start) {reading : Reading}
    (hread : Reading.read start.cursor.live = reading) (collector : Collector) :
    lexer.next collector =
      ⟨(settle start.options.strict (Scan.ofReading start.options start.cursor reading)
          collector).1,
        { start with cursor := start.cursor.advanceBy reading.text.length },
        (settle start.options.strict (Scan.ofReading start.options start.cursor reading)
          collector).2⟩ := by
  have hopen : start.closed = false := by
    obtain ⟨hopen, rfl⟩ := eq_of_skipBlanks h
    exact hopen
  rw [← next_of_skipBlanks h, next_of_open hopen, scan_of_skipBlanks h, hread,
    Scan.cursor_ofReading]

theorem takes_next (h : lexer.skipBlanks = .ok start) {reading : Reading}
    (hread : Reading.read start.cursor.live = reading) (collector : Collector) :
    (lexer.next collector).Takes start reading.text := by
  have hfront := Reading.text_read_isPrefix_self start.cursor.live
  rw [hread] at hfront
  rw [next_eq_of_skipBlanks h hread]
  exact ⟨by rw [Cursor.index_advanceBy, Nat.min_eq_left hfront.length_le], rfl⟩

/-- Where a token is read, a call returns it. -/
theorem returns_next (h : lexer.skipBlanks = .ok start) {kind : Token.Kind}
    {lexeme : Option String} {text : List Char}
    (hread : Reading.read start.cursor.live = .token kind lexeme text) (collector : Collector) :
    (lexer.next collector).Returns start collector text kind lexeme := by
  refine ⟨takes_next h hread collector, ?_, ?_⟩
  · rw [next_eq_of_skipBlanks h hread, settle_of_none rfl]
    rfl
  · rw [next_eq_of_skipBlanks h hread, settle_of_none rfl]

/-- Where something bad is read, a call reports it. -/
theorem reports_next (h : lexer.skipBlanks = .ok start) {cause : Diagnostic.Cause}
    {text : List Char} (hread : Reading.read start.cursor.live = .fault cause text)
    (collector : Collector) : (lexer.next collector).Reports start collector text cause := by
  have hlexeme : cause.lexeme = some (String.ofList text) := by
    have hfaithful := Reading.faithful_read start.cursor.live
    rwa [hread] at hfaithful
  have hdiagnostic : (Scan.ofReading start.options start.cursor (.fault cause text)).diagnostic
      = some ⟨cause, some ⟨start.options.filename, start.cursor.line, start.cursor.column⟩,
          some (String.ofList start.cursor.lineText)⟩ := rfl
  refine ⟨takes_next h hread collector, hlexeme, ?_, ?_⟩
  · intro hstrict
    rw [next_eq_of_skipBlanks h hread, hstrict, settle_strict_of_some hdiagnostic]
    exact ⟨rfl, rfl⟩
  · intro hstrict
    rw [next_eq_of_skipBlanks h hread, hstrict]
    refine ⟨?_, ?_, ?_⟩
    · rw [settle_lenient_of_some hdiagnostic]
      exact Collector.snd_report collector _
    · intro limit hlimit hle
      rw [settle_of_limit_le hdiagnostic hlimit hle]
    · intro hroom
      rw [settle_of_lt_limit hdiagnostic hroom, ← hlexeme]
      rfl

/-- Nobody but a parser makes pointers and addresses. -/
theorem asRead_of_next (h : lexer.skipBlanks = .ok start) {collector : Collector} {token : Token}
    {sign : Symbol} (htoken : (lexer.next collector).outcome = .ok token)
    (hkind : token.kind = .symbol sign) : sign.asRead = sign := by
  rw [next_eq_of_skipBlanks h rfl] at htoken
  rw [eq_token_of_settle htoken, Scan.token_ofReading] at hkind
  exact Reading.asRead_of_kind_read hkind

end

/-! ## The source behind the blanks -/

theorem Reached.of_skipBlanks {source : List Char} {lexer start : Lexer} (h : Reached source lexer)
    (hskip : lexer.skipBlanks = .ok start) : Reached source start := by
  have hcall := h.call .skipBlanks {}
  rwa [Session.Call.moving, hskip] at hcall

/-- Where the source goes on with a character that is no end mark, this is the next one to be read;
more can be read up to the first end mark. -/
theorem Reached.exists_live {source : List Char} {lexer : Lexer} (h : Reached source lexer)
    {char : Char} {rest : List Char} (hchar : char ≠ endMark)
    (hrest : source.drop lexer.cursor.index = char :: rest) :
    ∃ live beyond, lexer.cursor.live = char :: live ∧ rest = live ++ beyond ∧ endMark ∉ live
      ∧ ∀ first ∈ beyond.head?, first = endMark := by
  have hformed := h.wellFormed
  rw [← h.source_eq, Cursor.drop_index_source] at hrest
  cases hlive : lexer.cursor.live with
  | nil =>
    rw [hlive, List.nil_append] at hrest
    exact absurd (hformed.head?_beyond char (by rw [hrest]; rfl)) hchar
  | cons first live =>
    rw [hlive, List.cons_append] at hrest
    obtain ⟨rfl, rfl⟩ := List.cons.inj hrest
    have hmark := hformed.endMark_notMem_live
    rw [hlive, List.mem_cons, not_or] at hmark
    exact ⟨live, lexer.cursor.beyond, rfl, rfl, hmark.2, hformed.head?_beyond⟩

/-- A first call leaves a lexer in front of the blanks that a second one skips. -/
theorem exists_start (source : List Char) (options : Options) (index : Nat)
    (h : (((fresh options source).next {}).lexer.cursor.skipBlanks options.keepComments).index
      = index) :
    ∃ lexer start, Reached source lexer ∧ lexer.skipBlanks = .ok start
      ∧ start.cursor.index = index := by
  have hstart : Reached source (fresh options source) := .fresh options
  exact ⟨_, _, hstart.call .next {}, skipBlanks_of_open rfl, h⟩

variable {source : String} {lexer start : Lexer}

/-! ## Quotations -/

/-- **Quotations follow their grammar.**  Where a quote stands behind the blanks and the source has
a closed quotation there, it has only one, and that is returned as it is written.  Otherwise the
longest run of items is taken up with the quote, and with a backslash behind it that has nothing to
escape; this is reported, and the lexer stops in front of a line feed or an end mark, or at the end
of the source. -/
theorem next_takes_quotation (h : Reached source.toList lexer)
    (hskip : lexer.skipBlanks = .ok start) {quote : Char} {rest : List Char}
    (hquote : isQuote quote = true)
    (hrest : source.toList.drop start.cursor.index = quote :: rest) (collector : Collector) :
    (∀ text, Quotation.IsClosed quote text → text <+: quote :: rest →
        (∀ other, Quotation.IsClosed quote other → other <+: quote :: rest → other = text)
          ∧ (lexer.next collector).Returns start collector text
              (.literal (Quotation.form quote)) (some (String.ofList text)))
      ∧ ((∀ text, Quotation.IsClosed quote text → ¬ text <+: quote :: rest) →
        ∃ items behind, Longest (fun front _ => Quotation.IsRun quote front) rest items behind
          ∧ (∀ char ∈ (behind.drop (Quotation.dangling behind).length).head?,
              char = '\n' ∨ char = endMark)
          ∧ (lexer.next collector).Reports start collector
              (quote :: (items ++ Quotation.dangling behind))
              (Quotation.unterminated quote (quote :: (items ++ Quotation.dangling behind)))) := by
  obtain ⟨hslash, hfeed, hmark⟩ : quote ≠ '\\' ∧ quote ≠ '\n' ∧ quote ≠ endMark := by
    rcases eq_quote_of_isQuote hquote with rfl | rfl <;> decide
  obtain ⟨live, beyond, hlive, rfl, hnone, hbeyond⟩ :=
    (h.of_skipBlanks hskip).exists_live hmark hrest
  -- a closed quotation in the source is in front of the first end mark, so it is the one read
  have hread : ∀ text, Quotation.IsClosed quote text → text <+: quote :: (live ++ beyond) →
      Quotation.read quote live = ⟨text, true⟩ := by
    intro text hclosed hfront
    rw [← List.cons_append] at hfront
    exact Quotation.read_of_isClosed hslash hclosed
      (isPrefix_of_endMark_notMem (hclosed.endMark_notMem hmark) hbeyond hfront)
  constructor
  · intro text hclosed hfront
    have htext := hread text hclosed hfront
    constructor
    · intro other hother hfront'
      have hboth := (hread other hother hfront').symm.trans htext
      exact congrArg Quotation.text hboth
    · exact returns_next hskip (hlive ▸ Reading.read_of_closed hquote htext) collector
  · intro hopen
    rcases Quotation.read_cases hslash hfeed hnone hbeyond with
      ⟨text, hclosed, hfront⟩ | ⟨items, behind, hitems, hhalts, hsplit, hstops, hopen'⟩
    · refine absurd ?_ (hopen text hclosed)
      rw [← List.cons_append]
      exact hfront.trans (List.prefix_append _ _)
    · refine ⟨items, behind, ?_, hstops, ?_⟩
      · rw [hsplit]
        exact Quotation.longest_run hslash hitems hhalts
      · exact reports_next hskip (hlive ▸ Reading.read_of_open hquote hopen') collector

/-- Behind a report: a quotation with an escaped quote, and one in which a line feed is escaped but
the backslash in front of the end mark has nothing to escape. -/
theorem next_takes_quotation_with_escapes :
    (∃ lexer start, Reached "#\t'a\\'' 'b'".toList lexer ∧ lexer.skipBlanks = .ok start
        ∧ start.cursor.index = 2
        ∧ (lexer.next {}).Returns start {} ['\'', 'a', '\\', '\'', '\''] (.literal .character)
            (some "'a\\''"))
      ∧ ∃ lexer start, Reached "#\t\"b\\\n\\\x00\"".toList lexer ∧ lexer.skipBlanks = .ok start
        ∧ start.cursor.index = 2
        ∧ (lexer.next {}).Reports start {} ['"', 'b', '\\', '\n', '\\']
            (.unterminatedString "\"b\\\n\\") := by
  constructor
  · obtain ⟨lexer, start, h, hskip, hindex⟩ :=
      exists_start "#\t'a\\'' 'b'".toList { strict := true } 2 (by decide +kernel)
    have hrest : "#\t'a\\'' 'b'".toList.drop start.cursor.index
        = '\'' :: ['a', '\\', '\'', '\'', ' ', '\'', 'b', '\''] := by
      rw [hindex]
      decide +kernel
    obtain ⟨hclosed, -⟩ := next_takes_quotation h hskip (by decide) hrest {}
    have hitems : Quotation.IsRun '\'' ['a', '\\', '\''] :=
      ⟨.plain (by decide) (by decide) (by decide) (.escaped .nil), by decide⟩
    obtain ⟨-, hreturns⟩ := hclosed ['\'', 'a', '\\', '\'', '\''] ⟨_, hitems, rfl⟩ (by decide)
    exact ⟨lexer, start, h, hskip, hindex, hreturns⟩
  · obtain ⟨lexer, start, h, hskip, hindex⟩ :=
      exists_start "#\t\"b\\\n\\\x00\"".toList { strict := true } 2 (by decide +kernel)
    have hrest : "#\t\"b\\\n\\\x00\"".toList.drop start.cursor.index
        = '"' :: ['b', '\\', '\n', '\\', endMark, '"'] := by
      rw [hindex]
      decide +kernel
    obtain ⟨-, hopen⟩ := next_takes_quotation h hskip (by decide) hrest {}
    have hnone : ∀ text, Quotation.IsClosed '"' text →
        ¬ text <+: '"' :: ['b', '\\', '\n', '\\', endMark, '"'] := by
      -- only a quotation that takes in the end mark would close
      intro text hclosed hfront
      have hread := Quotation.read_of_isClosed (by decide) hclosed hfront
      have hmark := hclosed.endMark_notMem (by decide)
      obtain rfl := congrArg Quotation.text hread
      exact hmark (by decide)
    obtain ⟨items, behind, hlongest, -, hreports⟩ := hopen hnone
    have hitems : Quotation.IsRun '"' ['b', '\\', '\n'] :=
      ⟨.plain (by decide) (by decide) (by decide) (.escaped .nil), by decide⟩
    have hhalts : Quotation.Halts '"' ['\\', endMark, '"'] :=
      .backslash fun _ hchar => (Option.some.inj hchar).symm
    obtain ⟨rfl, rfl⟩ := hlongest.unique (Quotation.longest_run (by decide) hitems hhalts)
    exact ⟨lexer, start, h, hskip, hindex, hreports⟩

/-! ## Numerals -/

/-- **Numerals are the longest match of their grammar.**  Where a digit stands behind the blanks,
the longest numeral at the front of the rest of the source is returned as it is written.  It is an
integer exactly if it is all digits, and a floating numeral exactly if it has a fraction or an
exponent.  The lexer comes to stand right behind it: wherever the source can be split into a
numeral and something that does not prolong it, this is the numeral, and the something is what is
left. -/
theorem next_takes_numeral (h : Reached source.toList lexer)
    (hskip : lexer.skipBlanks = .ok start) {char : Char} {rest : List Char}
    (hdigit : char.isDigit = true)
    (hrest : source.toList.drop start.cursor.index = char :: rest) (collector : Collector) :
    ∃ (parts : Numeral.Parts) (behind : List Char) (form : Literal), parts.WellFormed
      ∧ Longest (fun front _ => Numeral.IsNumeral front) (char :: rest) parts.text behind
      ∧ (lexer.next collector).Returns start collector parts.text (.literal form)
          (some (String.ofList parts.text))
      ∧ (form = .integer ↔ ∀ digit ∈ parts.text, digit.isDigit = true)
      ∧ (form = .floating ↔ parts.fraction ≠ [] ∨ parts.exponent ≠ [])
      ∧ source.toList.drop (lexer.next collector).lexer.cursor.index = behind
      ∧ ∀ (other : Numeral.Parts) (left : List Char), other.WellFormed → other.Stops left →
          char :: rest = other.text ++ left → other = parts ∧ left = behind := by
  have hmark : char ≠ endMark := by
    rintro rfl
    exact absurd hdigit (by decide)
  obtain ⟨live, beyond, hlive, rfl, -, hbeyond⟩ := (h.of_skipBlanks hskip).exists_live hmark hrest
  obtain ⟨parts, hparts, left, hstops, hsplit⟩ := Numeral.exists_read hdigit live
  have hread : Reading.read start.cursor.live
      = Reading.verbatim (.literal parts.form) parts.text := by
    rw [hlive, Reading.read_of_isDigit hdigit, hsplit, Numeral.read_append hparts hstops]
    rfl
  have hlongest : Longest (fun front _ => Numeral.IsNumeral front) (char :: (live ++ beyond))
      parts.text (left ++ beyond) := by
    have hshort := Numeral.longest_read hparts hstops
    rw [← hsplit] at hshort
    exact hshort.append_beyond (fun _ => Numeral.IsNumeral.endMark_notMem) hbeyond
  have hreturns := returns_next hskip hread collector
  refine ⟨parts, left ++ beyond, parts.form, hparts, hlongest, hreturns, ?_, ?_, ?_, ?_⟩
  · rw [hparts.forall_isDigit_iff]
    simp [Numeral.Parts.form]
  · simp [Numeral.Parts.form, imp_iff_not_or]
  · exact hreturns.drop_eq (hrest.trans hlongest.text_eq)
  · intro other left' hother hstops' hsplit'
    have hlongest' := Numeral.longest_read hother hstops'
    rw [← hsplit'] at hlongest'
    obtain ⟨htext, hleft⟩ := hlongest'.unique hlongest
    exact ⟨hother.eq_of_text hparts htext, hleft⟩

/-- Behind a report: the exponent that lacks its digits is left, and so is the second dot. -/
theorem next_takes_numeral_before_lone_mark :
    ∃ lexer start, Reached "#\t0.5e+.7".toList lexer ∧ lexer.skipBlanks = .ok start
      ∧ start.cursor.index = 2
      ∧ (lexer.next {}).Returns start {} ['0', '.', '5'] (.literal .floating) (some "0.5")
      ∧ "#\t0.5e+.7".toList.drop (lexer.next {}).lexer.cursor.index = ['e', '+', '.', '7'] := by
  obtain ⟨lexer, start, h, hskip, hindex⟩ :=
    exists_start "#\t0.5e+.7".toList { strict := true } 2 (by decide +kernel)
  have hrest : "#\t0.5e+.7".toList.drop start.cursor.index
      = '0' :: ['.', '5', 'e', '+', '.', '7'] := by
    rw [hindex]
    decide +kernel
  obtain ⟨parts, behind, form, -, -, hreturns, -, hform, hbehind, honly⟩ :=
    next_takes_numeral h hskip (by decide) hrest {}
  have hparts : Numeral.Parts.WellFormed ⟨['0'], ['.', '5'], []⟩ :=
    ⟨⟨by decide, by simp⟩, .inr ⟨['5'], ⟨by decide, by simp⟩, rfl⟩, .inl rfl⟩
  have hstops : Numeral.Parts.Stops ⟨['0'], ['.', '5'], []⟩ ['e', '+', '.', '7'] :=
    ⟨Numeral.startsNoDigit_of_cons (by decide) _, fun hnone => absurd hnone (by decide),
      fun _ => by decide⟩
  obtain ⟨rfl, rfl⟩ := honly _ _ hparts hstops (by decide)
  obtain rfl : form = .floating := hform.2 (.inl (by decide))
  exact ⟨lexer, start, h, hskip, hindex, hreturns, hbehind⟩

/-! ## Words and symbols -/

section

variable {char : Char} {rest : List Char}

/-- A word is taken up as far as it goes, and it is a keyword only as a whole. -/
theorem returns_word (h : Reached source.toList lexer) (hskip : lexer.skipBlanks = .ok start)
    (hrest : source.toList.drop start.cursor.index = char :: rest) (hmark : char ≠ endMark)
    (hstart : Word.isStart char = true) (collector : Collector) :
    ∃ word behind kind, Longest (fun front _ => Word.IsRun front) (char :: rest) word behind
      ∧ (∀ keyword : Keyword, keyword.spelling = String.ofList word → kind = .keyword keyword)
      ∧ ((∀ keyword : Keyword, keyword.spelling ≠ String.ofList word) → kind = .identifier)
      ∧ (lexer.next collector).Returns start collector word kind (some (String.ofList word)) := by
  obtain ⟨live, beyond, hlive, rfl, -, hbeyond⟩ := (h.of_skipBlanks hskip).exists_live hmark hrest
  have hread : Reading.read start.cursor.live = Reading.ofWord (Word.read (char :: live)) := by
    rw [hlive, Reading.read_of_isStart hstart]
  exact ⟨_, _, _,
    (Word.longest_read (char :: live)).append_beyond (fun _ => Word.IsRun.endMark_notMem) hbeyond,
    fun _ => Word.kind_eq_keyword, Word.kind_eq_identifier, returns_next hskip hread collector⟩

/-- Where no other lexeme starts, the longest spelling is taken up, and if there is none a single
character is. -/
theorem returns_symbol_or_reports (h : Reached source.toList lexer)
    (hskip : lexer.skipBlanks = .ok start)
    (hrest : source.toList.drop start.cursor.index = char :: rest) (hmark : char ≠ endMark)
    (hstart : Word.isStart char = false) (hdigit : char.isDigit = false)
    (hquote : isQuote char = false)
    (hcomment : ∀ opener ∈ [['/', '/'], ['/', '*']], ¬ opener <+: char :: rest)
    (collector : Collector) :
    (∃ (sign : Symbol) (behind : List Char), sign.asRead = sign
        ∧ Longest (fun front _ => Symbol.IsSpelling front) (char :: rest) sign.spelling.toList
            behind
        ∧ (lexer.next collector).Returns start collector sign.spelling.toList (.symbol sign) none)
      ∨ (∀ sign : Symbol, ¬ sign.spelling.toList <+: char :: rest)
        ∧ (lexer.next collector).Reports start collector [char] (.invalidCharacter char) := by
  obtain ⟨live, beyond, hlive, rfl, -, hbeyond⟩ := (h.of_skipBlanks hskip).exists_live hmark hrest
  have hstyle : Comment.style? (char :: live) = none := Comment.style?_eq_none hcomment
  have hread : Reading.read start.cursor.live = Reading.ofSymbol char live := by
    rw [hlive, Reading.read_of_not_isStart hstyle hstart hdigit hquote]
  rcases Reading.ofSymbol_cases char live with
    ⟨sign, hsign, htoken, behind, hlongest⟩ | ⟨hfault, hnone⟩
  · exact .inl ⟨sign, _, hsign,
      hlongest.append_beyond (fun _ => Symbol.IsSpelling.endMark_notMem) hbeyond,
      returns_next hskip (hread.trans htoken) collector⟩
  · refine .inr ⟨?_, reports_next hskip (hread.trans hfault) collector⟩
    intro sign hfront
    exact hnone sign (isPrefix_of_endMark_notMem
      (Symbol.IsSpelling.endMark_notMem ⟨sign, rfl⟩) hbeyond hfront)

end

/-- **Words and symbols are taken up as far as they go.**  Let a character stand behind the blanks
that is no end mark, no digit and no quote and does not start a comment.  If a word can start with
it, the longest run is returned, as the keyword with that spelling or as an identifier.  Otherwise
the longest spelling of a symbol is returned, as the only symbol with this spelling that is neither
a pointer nor an address; and if no spelling stands there the character alone is reported.  Pointers
and addresses are never returned, whatever stands there. -/
theorem next_munches (h : Reached source.toList lexer) (hskip : lexer.skipBlanks = .ok start)
    (collector : Collector) :
    (∀ char rest, source.toList.drop start.cursor.index = char :: rest → char ≠ endMark →
        char.isDigit = false → isQuote char = false →
        (∀ opener ∈ [['/', '/'], ['/', '*']], ¬ opener <+: char :: rest) →
      (Word.isStart char = true →
        ∃ word behind kind, Longest (fun front _ => Word.IsRun front) (char :: rest) word behind
          ∧ (∀ keyword : Keyword, keyword.spelling = String.ofList word → kind = .keyword keyword)
          ∧ ((∀ keyword : Keyword, keyword.spelling ≠ String.ofList word) → kind = .identifier)
          ∧ (lexer.next collector).Returns start collector word kind
              (some (String.ofList word)))
      ∧ (Word.isStart char = false →
          (∃ sign : Symbol, sign.spelling.toList <+: char :: rest) →
        ∃ (sign : Symbol) (behind : List Char),
          Longest (fun front _ => Symbol.IsSpelling front) (char :: rest) sign.spelling.toList
              behind
          ∧ sign ≠ .pointer ∧ sign ≠ .address
          ∧ (∀ other : Symbol, other.spelling = sign.spelling → other ≠ .pointer →
              other ≠ .address → other = sign)
          ∧ (lexer.next collector).Returns start collector sign.spelling.toList (.symbol sign) none)
      ∧ (Word.isStart char = false →
          (∀ sign : Symbol, ¬ sign.spelling.toList <+: char :: rest) →
        (lexer.next collector).Reports start collector [char] (.invalidCharacter char)))
    ∧ ∀ token, (lexer.next collector).outcome = .ok token →
        token.kind ≠ .symbol .pointer ∧ token.kind ≠ .symbol .address := by
  constructor
  · intro char rest hrest hmark hdigit hquote hcomment
    refine ⟨fun hstart => returns_word h hskip hrest hmark hstart collector, ?_, ?_⟩
    · rintro hstart ⟨sign, hfront⟩
      rcases returns_symbol_or_reports h hskip hrest hmark hstart hdigit hquote hcomment collector
        with ⟨found, behind, hfound, hlongest, hreturns⟩ | ⟨hnone, -⟩
      · obtain ⟨hpointer, haddress⟩ := Symbol.asRead_eq_self_iff.1 hfound
        refine ⟨found, behind, hlongest, hpointer, haddress, ?_, hreturns⟩
        intro other hspelling hpointer' haddress'
        have hother := Symbol.asRead_eq_self_iff.2 ⟨hpointer', haddress'⟩
        rw [← hother, Symbol.asRead_eq_of_spelling_eq hspelling, hfound]
      · exact absurd hfront (hnone sign)
    · intro hstart hnone
      rcases returns_symbol_or_reports h hskip hrest hmark hstart hdigit hquote hcomment collector
        with ⟨found, behind, -, hlongest, -⟩ | ⟨-, hreports⟩
      · exact absurd ⟨behind, hlongest.text_eq.symm⟩ (hnone found)
      · exact hreports
  · intro token htoken
    constructor
    · intro hkind
      exact absurd (asRead_of_next hskip htoken hkind) (by decide)
    · intro hkind
      exact absurd (asRead_of_next hskip htoken hkind) (by decide)

/-- Behind a report: a word that only starts with a keyword, two colons out of three, and a
character that starts nothing. -/
theorem next_munches_past_keyword :
    (∃ lexer start, Reached "#\tintx\x00".toList lexer ∧ lexer.skipBlanks = .ok start
        ∧ start.cursor.index = 2
        ∧ (lexer.next {}).Returns start {} ['i', 'n', 't', 'x'] .identifier (some "intx"))
      ∧ (∃ lexer start, Reached "#\t:::".toList lexer ∧ lexer.skipBlanks = .ok start
        ∧ start.cursor.index = 2
        ∧ (lexer.next {}).Returns start {} [':', ':'] (.symbol .doubleColon) none)
      ∧ ∃ lexer start, Reached "#\t$=".toList lexer ∧ lexer.skipBlanks = .ok start
        ∧ start.cursor.index = 2
        ∧ (lexer.next {}).Reports start {} ['$'] (.invalidCharacter '$') := by
  refine ⟨?_, ?_, ?_⟩
  · obtain ⟨lexer, start, h, hskip, hindex⟩ :=
      exists_start "#\tintx\x00".toList { strict := true } 2 (by decide +kernel)
    have hrest : "#\tintx\x00".toList.drop start.cursor.index
        = 'i' :: ['n', 't', 'x', endMark] := by
      rw [hindex]
      decide +kernel
    obtain ⟨hmunch, -⟩ := next_munches h hskip {}
    obtain ⟨hword, -, -⟩ :=
      hmunch _ _ hrest (by decide) (by decide) (by decide) (by decide)
    obtain ⟨word, behind, kind, hlongest, -, hkind, hreturns⟩ := hword (by decide)
    obtain ⟨rfl, -⟩ := hlongest.unique (Word.longest_read _)
    obtain rfl := hkind (by intro keyword; cases keyword <;> decide +kernel)
    exact ⟨lexer, start, h, hskip, hindex, hreturns⟩
  · obtain ⟨lexer, start, h, hskip, hindex⟩ :=
      exists_start "#\t:::".toList { strict := true } 2 (by decide +kernel)
    have hrest : "#\t:::".toList.drop start.cursor.index = ':' :: [':', ':'] := by
      rw [hindex]
      decide +kernel
    obtain ⟨hmunch, -⟩ := next_munches h hskip {}
    obtain ⟨-, hsymbol, -⟩ :=
      hmunch _ _ hrest (by decide) (by decide) (by decide) (by decide)
    obtain ⟨sign, behind, hlongest, -, -, honly, hreturns⟩ :=
      hsymbol (by decide) ⟨.colon, by decide +kernel⟩
    have hpair : Symbol.ofPair? ':' ':' = some .doubleColon := by decide
    obtain ⟨htext, -⟩ := hlongest.unique (Reading.longest_of_ofPair? hpair)
    obtain rfl := honly .doubleColon (String.toList_inj.1 htext.symm) (by decide) (by decide)
    exact ⟨lexer, start, h, hskip, hindex, hreturns⟩
  · obtain ⟨lexer, start, h, hskip, hindex⟩ :=
      exists_start "#\t$=".toList { strict := true } 2 (by decide +kernel)
    have hrest : "#\t$=".toList.drop start.cursor.index = '$' :: ['='] := by
      rw [hindex]
      decide +kernel
    obtain ⟨hmunch, -⟩ := next_munches h hskip {}
    obtain ⟨-, -, hnone⟩ :=
      hmunch _ _ hrest (by decide) (by decide) (by decide) (by decide)
    have hreports := hnone (by decide) (by intro sign; cases sign <;> decide +kernel)
    exact ⟨lexer, start, h, hskip, hindex, hreports⟩

end Lexer
end SourceLexer
