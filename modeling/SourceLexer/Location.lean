/-!
# Locations

Where something stands in a named source text.  Lines and columns count from one; a column counts
code points.  A location may be made up by a caller, so its numbers are any integers.
-/

namespace SourceLexer

/-- A line and column of a named source text. -/
structure Location where
  filename : String
  line : Int
  column : Int
  deriving DecidableEq, Repr

/-- The form in which messages print a location: the parts with colons between them. -/
def Location.render (location : Location) : String :=
  s!"{location.filename}:{location.line}:{location.column}"

end SourceLexer
