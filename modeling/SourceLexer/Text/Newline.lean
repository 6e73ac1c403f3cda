/-!
# Line breaks

Texts that come from outside break their lines in three ways: with a line feed, with a carriage
return, or with both.  Read as a text, each of the three is one line feed.
-/

namespace SourceLexer
namespace Text

/-- The text with every line break made a line feed, behind what has been read already and is given
in reverse. -/
def unifyNewlinesOnto (before : List Char) : List Char → List Char
  | [] => before.reverse
  | '\r' :: '\n' :: rest => unifyNewlinesOnto ('\n' :: before) rest
  | '\r' :: rest => unifyNewlinesOnto ('\n' :: before) rest
  | char :: rest => unifyNewlinesOnto (char :: before) rest

/-- The text with every line break made a line feed. -/
def unifyNewlines (text : List Char) : List Char :=
  unifyNewlinesOnto [] text

end Text
end SourceLexer
