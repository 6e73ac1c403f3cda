import SourceLexer.CommandLine.FileTree
import SourceLexer.Text.Integer
import SourceLexer.Text.Likeness
import SourceLexer.Text.Quoted

/-!
# Arguments of the token dumper

The words of a command line are read in two passes.

The first pass, `Arguments.ofList`, tells options from other words.  A word that begins with a
dash is an option, unless it is the dash alone; options and other words may come in any order, and
a word of two dashes ends the options.  A long option may carry its value behind an equals sign;
letters may be run together behind one dash.

The second pass, `Arguments.request`, looks at what was said: whether only the version or the
help is wanted, then whether the number is one, then whether the file is there, and last whether
a word is left over.  The first complaint wins.
-/

namespace SourceLexer
namespace CommandLine

/-- The options. -/
inductive Switch where
  | strict | comments | maxErrors | verbose | version | help
  deriving DecidableEq, Repr

namespace Switch

/-- The options by their long names. -/
def names : List (String × Switch) :=
  [("--strict", strict), ("--comments", comments), ("--max-errors", maxErrors),
    ("--verbose", verbose), ("--version", version), ("--help", help)]

/-- The option with a long name. -/
def ofName? (name : String) : Option Switch :=
  names.lookup name

/-- The option with a letter. -/
def ofLetter? (letter : Char) : Option Switch :=
  [('v', verbose)].lookup letter

end Switch

/-- What is wrong with a command line. -/
inductive UsageFault where
  | noSuchOption (name : String)
  | noSuchLetter (letter : Char)
  | valueMissing (name : String)
  | valueUnwanted (name : String)
  | notInteger (given : String)
  | outOfRange (given : Int)
  | inputMissing
  | fileMissing (path : String)
  | fileIsDirectory (path : String)
  | fileLocked (path : String)
  | extraArguments (arguments : List String)
  deriving DecidableEq, Repr

namespace UsageFault

/-- The name of the argument for the input. -/
def inputName : String := "'INPUT_FILE'"

/-- The options that somebody may have had in mind who wrote an unknown one. -/
def suggestion (name : String) : String :=
  match Text.suggestions name (Switch.names.map Prod.fst) with
  | [] => ""
  | [only] => s!" Did you mean {only}?"
  | several =>
    let shown := ", ".intercalate several
    s!" (Possible options: {shown})"

/-- What is wrong, in one line. -/
def message : UsageFault → String
  | .noSuchOption name => s!"No such option: {name}{suggestion name}"
  | .noSuchLetter letter => s!"No such option: -{letter}"
  | .valueMissing name => s!"Option {Text.quote name} requires an argument."
  | .valueUnwanted name => s!"Option {Text.quote name} does not take a value."
  | .notInteger given =>
    s!"Invalid value for '--max-errors': {Text.quote given} is not a valid integer range."
  | .outOfRange given =>
    s!"Invalid value for '--max-errors': {given} is not in the range x>=1."
  | .inputMissing => s!"Missing argument {inputName}."
  | .fileMissing path =>
    s!"Invalid value for {inputName}: File {Text.quote path} does not exist."
  | .fileIsDirectory path =>
    s!"Invalid value for {inputName}: File {Text.quote path} is a directory."
  | .fileLocked path =>
    s!"Invalid value for {inputName}: File {Text.quote path} is not readable."
  | .extraArguments [argument] => s!"Got unexpected extra argument ({argument})"
  | .extraArguments arguments =>
    let shown := " ".intercalate arguments
    s!"Got unexpected extra arguments ({shown})"

/-- Whether the complaint comes with a reminder of the usage.  A complaint about how an option is
written does not. -/
def remindsOfUsage : UsageFault → Bool
  | .valueMissing _ | .valueUnwanted _ => false
  | _ => true

/-- The reminder of the usage. -/
def usage : String :=
  "Usage: main [OPTIONS] INPUT_FILE\nTry 'main --help' for help.\n\n"

/-- What the user gets to read.  Words of the command line are shown as they were given, but for
what `strip` takes out. -/
def notice (strip : String → String) (fault : UsageFault) : String :=
  (if fault.remindsOfUsage then usage else "") ++ strip s!"Error: {fault.message}" ++ "\n"

end UsageFault

/-- The words of a command line, sorted. -/
structure Arguments where
  /-- The options without a value, in the order in which they were given. -/
  switches : List Switch := []
  /-- The value of the last option for the error limit. -/
  limit : Option String := none
  /-- The words that are no options. -/
  words : List String := []
  deriving DecidableEq, Repr

namespace Arguments

/-- What a word that begins with a dash asks for. -/
inductive Asked where
  | switches (found : List Switch)
  /-- The limit, with its value if that stands in the same word. -/
  | limit (value : Option String)
  deriving DecidableEq, Repr

/-- A word up to the first equals sign, and what stands behind that. -/
def splitValue (word : String) : String × Option String :=
  match word.toList.span (· ≠ '=') with
  | (name, []) => (String.ofList name, none)
  | (name, _ :: value) => (String.ofList name, some (String.ofList value))

/-- The options of the letters behind a dash. -/
def letters (word : String) : Except UsageFault (List Switch) :=
  (word.toList.drop 1).mapM fun letter =>
    match Switch.ofLetter? letter with
    | some switch => .ok switch
    | none => .error (.noSuchLetter letter)

/-- Reads a word that begins with a dash. -/
def asked (word : String) : Except UsageFault Asked :=
  let (name, value) := splitValue word
  match Switch.ofName? name, value with
  | some .maxErrors, value => .ok (.limit value)
  | some switch, none => .ok (.switches [switch])
  | some _, some _ => .error (.valueUnwanted name)
  | none, _ =>
    if word.startsWith "--" then .error (.noSuchOption name)
    else (letters word).map .switches

/-- Whether a word is an option. -/
def isOption (word : String) : Bool :=
  word.startsWith "-" && word ≠ "-"

/-- Sorts the words behind those that have been sorted already. -/
def sort (found : Arguments) : List String → Except UsageFault Arguments
  | [] => .ok found
  | word :: rest =>
    if word = "--" then .ok { found with words := found.words ++ rest }
    else if isOption word then
      match asked word with
      | .error fault => .error fault
      | .ok (.switches more) => sort { found with switches := found.switches ++ more } rest
      | .ok (.limit (some value)) => sort { found with limit := some value } rest
      | .ok (.limit none) =>
        -- the value is the next word, whatever that looks like
        match rest with
        | [] => .error (.valueMissing (splitValue word).1)
        | value :: rest => sort { found with limit := some value } rest
    else sort { found with words := found.words ++ [word] } rest

/-- Sorts the words of a command line. -/
def ofList (words : List String) : Except UsageFault Arguments :=
  sort {} words

end Arguments

/-- Where the text to be dumped comes from. -/
inductive Source where
  | standardInput
  /-- A file, by the plain form of its path. -/
  | file (path : String) (content : List UInt8)
  deriving DecidableEq, Repr

/-- What to dump, and how. -/
structure Job where
  source : Source
  strict : Bool
  keepComments : Bool
  /-- The number of faults after which to stop; at least one. -/
  limit : Option Nat
  verbose : Bool
  deriving DecidableEq, Repr

/-- What a command line asks for. -/
inductive Request where
  | version
  | help
  | dump (job : Job)
  deriving DecidableEq, Repr

namespace Arguments

/-- The number of faults after which to stop. -/
def limit? (arguments : Arguments) : Except UsageFault (Option Nat) :=
  match arguments.limit with
  | none => .ok none
  | some given =>
    match Text.integer? given with
    | none => .error (.notInteger given)
    | some limit => if limit < 1 then .error (.outOfRange limit) else .ok (some limit.toNat)

/-- The source that a word names.  A path whose plain form is a dash means the standard input. -/
def source (look : String → Option FileTree.Node) (word : String) : Except UsageFault Source :=
  if word = "-" then .ok .standardInput
  else
    match look word with
    | none => .error (.fileMissing word)
    | some .directory => .error (.fileIsDirectory word)
    | some .locked => .error (.fileLocked word)
    | some (.file content) =>
      let path := plainPath word
      .ok (if path = "-" then .standardInput else .file path content)

/-- What the arguments ask for, where `look` tells what a path leads to. -/
def request (look : String → Option FileTree.Node) (arguments : Arguments) :
    Except UsageFault Request :=
  match arguments.switches.find? fun switch => switch = .version ∨ switch = .help with
  | some .version => .ok .version
  | some _ => .ok .help
  | none => do
    let limit ← arguments.limit?
    match arguments.words with
    | [] => .error .inputMissing
    | word :: rest =>
      let source ← source look word
      if rest ≠ [] then .error (.extraArguments rest)
      return .dump
        { source, limit
          strict := arguments.switches.contains .strict
          keepComments := arguments.switches.contains .comments
          verbose := arguments.switches.contains .verbose }

end Arguments
end CommandLine
end SourceLexer
