import SourceLexer.Text.Quoted
import SourceLexer.Token.Kind

/-!
# Arguments and what can be wrong with them

A caller hands over values whose type is only known once it has been looked at.  `Argument` is
such a value, and `ArgumentFault` says why a value was turned down.  Faults of this kind are the
caller's and not the source text's, so they are never collected with the diagnostics of a text.
-/

namespace SourceLexer

/-- A value of a type that has not been checked.  Lists and mappings are empty ones: none of
their members is ever looked at. -/
inductive Argument where
  | null
  | flag (value : Bool)
  | integer (value : Int)
  /-- The number `digits` with its last `places` digits after the point. -/
  | decimal (digits : Int) (places : Nat)
  | text (value : String)
  | list
  | mapping
  deriving DecidableEq, Repr

namespace Argument

/-- The name that messages give to the type of a value. -/
def typeName : Argument → String
  | .null => "NoneType"
  | .flag _ => "bool"
  | .integer _ => "int"
  | .decimal _ _ => "float"
  | .text _ => "str"
  | .list => "list"
  | .mapping => "dict"

/-- A number with the given count of digits after the point. -/
def decimalText (digits : Int) (places : Nat) : String :=
  let padded := (toString digits.natAbs).toList
  let padded := List.replicate (places + 1 - padded.length) '0' ++ padded
  let whole := padded.take (padded.length - places)
  let fraction := padded.drop (padded.length - places)
  String.ofList ((if digits < 0 then ['-'] else []) ++ whole ++ '.' :: fraction)

/-- The form in which messages show a value. -/
def render : Argument → String
  | .null => "None"
  | .flag true => "True"
  | .flag false => "False"
  | .integer value => toString value
  | .decimal digits places => decimalText digits places
  | .text value => Text.quote value
  | .list => "[]"
  | .mapping => "\x7b\x7d"

end Argument

/-- Why an argument was turned down. -/
inductive ArgumentFault where
  | unknownKind (given : Argument)
  | lexemeMissing (kind : Token.Kind)
  | lexemeUnexpected (kind : Token.Kind) (given : Argument)
  | lexemeNotText (given : Argument)
  | sourceMissing
  | sourceNotText (given : Argument)
  /-- A fault that the caller has put into words already. -/
  | described (message : String)
  deriving DecidableEq, Repr

/-- The wording of a fault. -/
def ArgumentFault.message : ArgumentFault → String
  | .unknownKind given => s!"token type must be a TokenType, got {given.render}"
  | .lexemeMissing kind => s!"{kind.name} token requires a lexeme"
  | .lexemeUnexpected kind given => s!"{kind.name} token takes no lexeme, got {given.render}"
  | .lexemeNotText given => s!"lexeme must be a string, got {given.typeName}"
  | .sourceMissing => "source must not be None"
  | .sourceNotText given => s!"source must be a string, got {given.typeName}"
  | .described message => message

end SourceLexer
