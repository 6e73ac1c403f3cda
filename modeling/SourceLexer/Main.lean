import SourceLexer.CommandLine.Program

/-!
# The token dumper as a program

Everything is decided in `SourceLexer.CommandLine.Program`.  What is left is to look paths up, to
read the standard input if a job asks for it, and to write the two output texts, without the control
sequences that a terminal would obey.
-/

namespace SourceLexer
namespace CommandLine

/-- The file at a path that is known to lead to one. -/
def readFile (path : String) : IO FileTree.Node := do
  try
    let content ← IO.FS.readBinFile path
    return .file content.toList
  catch _ => return .locked

/-- What a path leads to on disk. -/
def lookUp (path : String) : IO (Option FileTree.Node) := do
  if path.isEmpty then return none
  try
    let place ← IO.FS.realPath path
    if ← place.isDir then return some .directory
    return some (← readFile path)
  catch _ => return none

/-- What the words of a command line lead to on disk.  Only the first word that is no option is
taken for a path. -/
def lookUpInput (words : List String) : IO (Option FileTree.Node) :=
  match Arguments.ofList words with
  | .ok { words := path :: _, .. } => lookUp path
  | _ => return none

/-- The bytes of the standard input. -/
def readStandardInput : IO (List UInt8) := do
  let input ← IO.getStdin
  let mut bytes := ByteArray.empty
  repeat
    let chunk ← input.read 65536
    if chunk.isEmpty then break
    bytes := bytes ++ chunk
  return bytes.toList

/-- Does what the words of a command line ask for. -/
def runOnDisk (words : List String) : IO Outcome := do
  let found ← lookUpInput words
  match plan Text.plain (fun _ => found) words with
  | .inl outcome => return outcome
  | .inr job =>
    let input ← if job.source = .standardInput then readStandardInput else pure []
    return job.perform Text.plain input

end CommandLine
end SourceLexer

/-- Runs the token dumper on the arguments of the process. -/
def main (arguments : List String) : IO UInt32 := do
  let outcome ← SourceLexer.CommandLine.runOnDisk arguments
  IO.print outcome.output
  IO.eprint outcome.errors
  return outcome.exit.toNat.toUInt32
