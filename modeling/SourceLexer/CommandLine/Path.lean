/-!
# Paths

The plain form of a path: without empty parts, without dots that stand for the same directory, and
without a slash at the end.  It names what the path names, and it is how reports call the file.
Two dots are kept, because what they lead to depends on the file system.
-/

namespace SourceLexer
namespace CommandLine

/-- The text between the slashes of a path. -/
def pathParts (path : String) : List String :=
  path.splitOn "/"

/-- What a path begins with if it does not begin where the program was started.  Two slashes mean
something else than one; more of them mean the same as one. -/
def pathRoot (path : String) : String :=
  match path.toList with
  | '/' :: '/' :: '/' :: _ => "/"
  | '/' :: '/' :: _ => "//"
  | '/' :: _ => "/"
  | _ => ""

/-- The plain form of a path. -/
def plainPath (path : String) : String :=
  let parts := (pathParts path).filter fun part => part ≠ "" ∧ part ≠ "."
  let plain := pathRoot path ++ "/".intercalate parts
  if plain = "" then "." else plain

end CommandLine
end SourceLexer
