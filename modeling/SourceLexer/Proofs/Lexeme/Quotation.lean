import SourceLexer.Lexeme.Quotation

/-!
# Where a quotation ends

What follows an opening quote is a run of items, and behind it one of four things: the closing
quote, a line feed, the end of the text, or a single backslash at the end of the text.
`exists_items` splits every text that way, and the four equations beside it say what is read in
each case.  So everything about the ends of quotations is a case analysis, and the only inductions
are the ones over the run of items.

## Other texts behind the same quotation

The last section replaces what stands behind a quotation.  A quotation is read again from its own
text alone, and it is read again in front of a line feed, unless it had nothing behind it and so
might have gone on.
-/

namespace SourceLexer
namespace Lexeme
namespace Quotation

/-- A run of items: characters that mean nothing special, and escaped characters. -/
inductive Items (quote : Char) : List Char → Prop where
  | nil : Items quote []
  | plain {char : Char} {rest : List Char} : char ≠ quote → char ≠ '\n' → char ≠ '\\' →
      Items quote rest → Items quote (char :: rest)
  | escaped {char : Char} {rest : List Char} : Items quote rest →
      Items quote ('\\' :: char :: rest)

@[simp] theorem after_after (first second : List Char) (quotation : Quotation) :
    (quotation.after second).after first = quotation.after (first ++ second) := by
  simp [after]

variable {quote : Char}

@[simp] theorem readItems_quote (rest : List Char) :
    readItems quote (quote :: rest) = ⟨[quote], true⟩ := by
  simp [readItems.eq_def]

theorem readItems_feed (hfeed : quote ≠ '\n') (rest : List Char) :
    readItems quote ('\n' :: rest) = ⟨[], false⟩ := by
  simp [readItems.eq_def, Ne.symm hfeed]

theorem readItems_plain {char : Char} (hquote : char ≠ quote) (hfeed : char ≠ '\n')
    (hback : char ≠ '\\') (rest : List Char) :
    readItems quote (char :: rest) = (readItems quote rest).after [char] := by
  rw [readItems.eq_def]
  simp [hquote, hfeed, hback]

/-! ## What is read behind a run of items -/

/-- A run of items is read and says nothing yet about the end. -/
theorem readItems_append (hslash : quote ≠ '\\') {items : List Char} (h : Items quote items)
    (rest : List Char) : readItems quote (items ++ rest) = (readItems quote rest).after items := by
  induction h with
  | nil => rfl
  | @plain char items hquote hfeed hback _ ih =>
    rw [List.cons_append, readItems_plain hquote hfeed hback, ih, after_after]
    rfl
  | @escaped char items _ ih =>
    rw [List.cons_append, List.cons_append, readItems, if_neg (Ne.symm hslash),
      if_neg (by decide), if_pos rfl, ih, after_after]
    rfl

theorem readItems_closed (hslash : quote ≠ '\\') {items : List Char} (h : Items quote items)
    (rest : List Char) :
    readItems quote (items ++ quote :: rest) = ⟨items ++ [quote], true⟩ := by
  rw [readItems_append hslash h, readItems_quote]
  rfl

theorem readItems_lineFeed (hslash : quote ≠ '\\') (hfeed : quote ≠ '\n') {items : List Char}
    (h : Items quote items) (rest : List Char) :
    readItems quote (items ++ '\n' :: rest) = ⟨items, false⟩ := by
  rw [readItems_append hslash h, readItems_feed hfeed, after, List.append_nil]

theorem readItems_end (hslash : quote ≠ '\\') {items : List Char} (h : Items quote items) :
    readItems quote items = ⟨items, false⟩ := by
  have hread := readItems_append hslash h []
  rw [List.append_nil] at hread
  rw [hread, readItems, after, List.append_nil]

theorem readItems_backslash (hslash : quote ≠ '\\') {items : List Char} (h : Items quote items) :
    readItems quote (items ++ ['\\']) = ⟨items ++ ['\\'], false⟩ := by
  rw [readItems_append hslash h, readItems, if_neg (Ne.symm hslash), if_neg (by decide),
    if_pos rfl]
  rfl

/-- Every text is a run of items with one of the four endings behind it. -/
theorem exists_items (quote : Char) (text : List Char) :
    ∃ items, Items quote items ∧
      ((∃ rest, text = items ++ quote :: rest) ∨ (∃ rest, text = items ++ '\n' :: rest)
        ∨ text = items ∨ text = items ++ ['\\']) := by
  fun_induction readItems quote text with
  | case1 => exact ⟨[], .nil, .inr (.inr (.inl rfl))⟩
  | case2 rest => exact ⟨[], .nil, .inl ⟨rest, rfl⟩⟩
  | case3 rest _ => exact ⟨[], .nil, .inr (.inl ⟨rest, rfl⟩)⟩
  | case4 => exact ⟨[], .nil, .inr (.inr (.inr rfl))⟩
  | case5 escaped rest _ _ ih =>
    obtain ⟨items, hitems, hends⟩ := ih
    refine ⟨'\\' :: escaped :: items, .escaped hitems, ?_⟩
    rcases hends with ⟨more, rfl⟩ | ⟨more, rfl⟩ | rfl | rfl
    · exact .inl ⟨more, rfl⟩
    · exact .inr (.inl ⟨more, rfl⟩)
    · exact .inr (.inr (.inl rfl))
    · exact .inr (.inr (.inr rfl))
  | case6 char rest hquote hfeed hback ih =>
    obtain ⟨items, hitems, hends⟩ := ih
    refine ⟨char :: items, .plain hquote hfeed hback hitems, ?_⟩
    rcases hends with ⟨more, rfl⟩ | ⟨more, rfl⟩ | rfl | rfl
    · exact .inl ⟨more, rfl⟩
    · exact .inr (.inl ⟨more, rfl⟩)
    · exact .inr (.inr (.inl rfl))
    · exact .inr (.inr (.inr rfl))

/-! ## Other texts behind the same quotation -/

/-- A quotation is read again from its own text. -/
theorem readItems_text (hslash : quote ≠ '\\') (text : List Char) :
    readItems quote (readItems quote text).text = readItems quote text := by
  obtain ⟨items, hitems, ⟨rest, rfl⟩ | ⟨rest, rfl⟩ | rfl | rfl⟩ := exists_items quote text
  · rw [readItems_closed hslash hitems, readItems_closed hslash hitems]
  · by_cases hfeed : quote = '\n'
    · subst hfeed
      rw [readItems_closed hslash hitems, readItems_closed hslash hitems]
    · rw [readItems_lineFeed hslash hfeed hitems, readItems_end hslash hitems]
  · rw [readItems_end hslash hitems, readItems_end hslash hitems]
  · rw [readItems_backslash hslash hitems, readItems_backslash hslash hitems]

/-- A quotation that has text behind it is read again in front of a line feed. -/
theorem readItems_text_append_lineFeed (hslash : quote ≠ '\\') (hfeed : quote ≠ '\n')
    {text : List Char} (hbehind : (readItems quote text).text ≠ text) (rest : List Char) :
    readItems quote ((readItems quote text).text ++ '\n' :: rest) = readItems quote text := by
  obtain ⟨items, hitems, ⟨more, rfl⟩ | ⟨more, rfl⟩ | rfl | rfl⟩ := exists_items quote text
  · rw [readItems_closed hslash hitems, List.append_assoc, List.singleton_append,
      readItems_closed hslash hitems]
  · rw [readItems_lineFeed hslash hfeed hitems, readItems_lineFeed hslash hfeed hitems]
  · rw [readItems_end hslash hitems] at hbehind
    exact absurd rfl hbehind
  · rw [readItems_backslash hslash hitems] at hbehind
    exact absurd rfl hbehind

/-- A line feed behind a text changes nothing in the quotation at its front, unless a backslash
escapes it. -/
theorem readItems_append_lineFeed (hslash : quote ≠ '\\') (hfeed : quote ≠ '\n')
    {text : List Char} (hlast : text.getLast? ≠ some '\\') (rest : List Char) :
    readItems quote (text ++ '\n' :: rest) = readItems quote text := by
  obtain ⟨items, hitems, ⟨more, rfl⟩ | ⟨more, rfl⟩ | rfl | rfl⟩ := exists_items quote text
  · rw [List.append_assoc, List.cons_append, readItems_closed hslash hitems,
      readItems_closed hslash hitems]
  · rw [List.append_assoc, List.cons_append, readItems_lineFeed hslash hfeed hitems,
      readItems_lineFeed hslash hfeed hitems]
  · rw [readItems_lineFeed hslash hfeed hitems, readItems_end hslash hitems]
  · exact absurd (List.getLast?_concat ..) hlast

end Quotation
end Lexeme
end SourceLexer
