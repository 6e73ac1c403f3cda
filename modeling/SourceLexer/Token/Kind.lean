/-!
# Kinds of token

A token is a word, a literal, a symbol, a comment, a piece of bad text, or the end of the
input.  Keywords, literals and symbols are families of their own, because each of them is
looked up on its own: a keyword by its spelling, a literal by the way it starts, a symbol by
its first one or two characters.

## Text that varies

A symbol and the end of the input always look the same, so a token of such a kind carries no
text.  Every other kind does, and `Kind.carriesText` says which is which.

## Pointers and addresses

A star multiplies or dereferences, an ampersand masks or takes an address, and which of the two
is meant depends on the grammar around it.  Reading text always yields `Symbol.multiply` and
`Symbol.bitwiseAnd`; `Symbol.pointer` and `Symbol.address` are there for a parser to put in
their place.
-/

namespace SourceLexer

/-- The reserved words. -/
inductive Keyword where
  | kwIf | kwElse | kwWhile | kwFor | kwReturn
  | kwInt | kwFloat | kwChar | kwVoid | kwStruct | kwConst
  deriving DecidableEq, Repr

/-- The literals, by the value they stand for. -/
inductive Literal where
  | integer | floating | character | string
  deriving DecidableEq, Repr

/-- Operators and delimiters: everything with one fixed spelling. -/
inductive Symbol where
  | plus | minus | multiply | divide | modulo
  | equal | notEqual | less | greater | lessEqual | greaterEqual
  | logicalAnd | logicalOr | logicalNot
  | assign | plusAssign | minusAssign | multiplyAssign | divideAssign
  | bitwiseAnd | bitwiseOr | bitwiseXor | bitwiseNot | leftShift | rightShift
  | pointer | address
  | semicolon | comma | period | colon | doubleColon
  | leftParen | rightParen | leftBrace | rightBrace | leftBracket | rightBracket
  deriving DecidableEq, Repr

/-- The class of a token. -/
inductive Token.Kind where
  | identifier
  | keyword (word : Keyword)
  | literal (form : Literal)
  | symbol (sign : Symbol)
  | comment
  | error
  | endOfInput
  deriving DecidableEq, Repr

/-- Every keyword, in the order in which the kinds are numbered. -/
def Keyword.all : List Keyword :=
  [.kwIf, .kwElse, .kwWhile, .kwFor, .kwReturn, .kwInt, .kwFloat, .kwChar, .kwVoid, .kwStruct,
    .kwConst]

/-- Every literal, in the order in which the kinds are numbered. -/
def Literal.all : List Literal :=
  [.integer, .floating, .character, .string]

/-- Every symbol, in the order in which the kinds are numbered. -/
def Symbol.all : List Symbol :=
  [.plus, .minus, .multiply, .divide, .modulo,
    .equal, .notEqual, .less, .greater, .lessEqual, .greaterEqual,
    .logicalAnd, .logicalOr, .logicalNot,
    .assign, .plusAssign, .minusAssign, .multiplyAssign, .divideAssign,
    .bitwiseAnd, .bitwiseOr, .bitwiseXor, .bitwiseNot, .leftShift, .rightShift,
    .pointer, .address,
    .semicolon, .comma, .period, .colon, .doubleColon,
    .leftParen, .rightParen, .leftBrace, .rightBrace, .leftBracket, .rightBracket]

theorem Keyword.mem_all (word : Keyword) : word ∈ Keyword.all := by
  cases word <;> decide

theorem Literal.mem_all (form : Literal) : form ∈ Literal.all := by
  cases form <;> decide

theorem Symbol.mem_all (sign : Symbol) : sign ∈ Symbol.all := by
  cases sign <;> decide

/-- The name of the keyword's kind, as dumps and messages print it. -/
def Keyword.name : Keyword → String
  | .kwIf => "IF"
  | .kwElse => "ELSE"
  | .kwWhile => "WHILE"
  | .kwFor => "FOR"
  | .kwReturn => "RETURN"
  | .kwInt => "INT"
  | .kwFloat => "FLOAT"
  | .kwChar => "CHAR"
  | .kwVoid => "VOID"
  | .kwStruct => "STRUCT"
  | .kwConst => "CONST"

/-- The name of the literal's kind. -/
def Literal.name : Literal → String
  | .integer => "LITERAL_INT"
  | .floating => "LITERAL_FLOAT"
  | .character => "LITERAL_CHAR"
  | .string => "LITERAL_STRING"

/-- The name of the symbol's kind. -/
def Symbol.name : Symbol → String
  | .plus => "PLUS"
  | .minus => "MINUS"
  | .multiply => "MULTIPLY"
  | .divide => "DIVIDE"
  | .modulo => "MODULO"
  | .equal => "EQUAL"
  | .notEqual => "NOT_EQUAL"
  | .less => "LESS"
  | .greater => "GREATER"
  | .lessEqual => "LESS_EQUAL"
  | .greaterEqual => "GREATER_EQUAL"
  | .logicalAnd => "AND"
  | .logicalOr => "OR"
  | .logicalNot => "NOT"
  | .assign => "ASSIGN"
  | .plusAssign => "PLUS_ASSIGN"
  | .minusAssign => "MINUS_ASSIGN"
  | .multiplyAssign => "MULTIPLY_ASSIGN"
  | .divideAssign => "DIVIDE_ASSIGN"
  | .bitwiseAnd => "BITWISE_AND"
  | .bitwiseOr => "BITWISE_OR"
  | .bitwiseXor => "BITWISE_XOR"
  | .bitwiseNot => "BITWISE_NOT"
  | .leftShift => "LEFT_SHIFT"
  | .rightShift => "RIGHT_SHIFT"
  | .pointer => "POINTER"
  | .address => "ADDRESS"
  | .semicolon => "SEMICOLON"
  | .comma => "COMMA"
  | .period => "PERIOD"
  | .colon => "COLON"
  | .doubleColon => "DOUBLE_COLON"
  | .leftParen => "LEFT_PAREN"
  | .rightParen => "RIGHT_PAREN"
  | .leftBrace => "LEFT_BRACE"
  | .rightBrace => "RIGHT_BRACE"
  | .leftBracket => "LEFT_BRACKET"
  | .rightBracket => "RIGHT_BRACKET"

namespace Token.Kind

/-- Every kind; the number of a kind is its place in this list, counted from one. -/
def all : List Kind :=
  .identifier :: Keyword.all.map .keyword ++ Literal.all.map .literal ++ Symbol.all.map .symbol
    ++ [.comment, .error, .endOfInput]

theorem mem_all (kind : Kind) : kind ∈ all := by
  cases kind <;> simp [all, Keyword.mem_all, Literal.mem_all, Symbol.mem_all]

/-- The name of a kind, as dumps and messages print it. -/
def name : Kind → String
  | .identifier => "IDENTIFIER"
  | .keyword word => word.name
  | .literal form => form.name
  | .symbol sign => sign.name
  | .comment => "COMMENT"
  | .error => "ERROR"
  | .endOfInput => "EOF"

/-- The kind with the given name. -/
def ofName? (name : String) : Option Kind :=
  all.find? fun kind => kind.name = name

/-- Whether a token of this kind holds its own text.  Symbols and the end of the input do not,
since the kind alone says how they are written. -/
def carriesText : Kind → Bool
  | .symbol _ | .endOfInput => false
  | _ => true

/-- Whether the kind is a reserved word. -/
def isKeyword : Kind → Bool
  | .keyword _ => true
  | _ => false

/-- Whether the kind is a literal. -/
def isLiteral : Kind → Bool
  | .literal _ => true
  | _ => false

/-- Whether the kind assigns to what stands on its left. -/
def isAssignment : Kind → Bool
  | .symbol .assign | .symbol .plusAssign | .symbol .minusAssign | .symbol .multiplyAssign
  | .symbol .divideAssign => true
  | _ => false

end Token.Kind

end SourceLexer
