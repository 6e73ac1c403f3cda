import SourceLexer.Token.Kind

/-!
# Spellings

How keywords and symbols are written, and how they are recognised.  Writing and recognising are
separate tables: `Symbol.spelling` gives the text of every symbol, while `Symbol.pairs` and
`Symbol.singles` list what two characters, or one, can stand for.  A symbol of two characters is
tried first, so the first table always wins over the second.
-/

namespace SourceLexer

/-- The text of a keyword. -/
def Keyword.spelling : Keyword → String
  | .kwIf => "if"
  | .kwElse => "else"
  | .kwWhile => "while"
  | .kwFor => "for"
  | .kwReturn => "return"
  | .kwInt => "int"
  | .kwFloat => "float"
  | .kwChar => "char"
  | .kwVoid => "void"
  | .kwStruct => "struct"
  | .kwConst => "const"

/-- The keyword written exactly so: letters of another case, or one letter more, make an
identifier. -/
def Keyword.ofText? (text : String) : Option Keyword :=
  Keyword.all.find? fun word => word.spelling = text

namespace Symbol

/-- The text of a symbol. -/
def spelling : Symbol → String
  | .plus => "+"
  | .minus => "-"
  | .multiply => "*"
  | .divide => "/"
  | .modulo => "%"
  | .equal => "=="
  | .notEqual => "!="
  | .less => "<"
  | .greater => ">"
  | .lessEqual => "<="
  | .greaterEqual => ">="
  | .logicalAnd => "&&"
  | .logicalOr => "||"
  | .logicalNot => "!"
  | .assign => "="
  | .plusAssign => "+="
  | .minusAssign => "-="
  | .multiplyAssign => "*="
  | .divideAssign => "/="
  | .bitwiseAnd => "&"
  | .bitwiseOr => "|"
  | .bitwiseXor => "^"
  | .bitwiseNot => "~"
  | .leftShift => "<<"
  | .rightShift => ">>"
  | .pointer => "*"
  | .address => "&"
  | .semicolon => ";"
  | .comma => ","
  | .period => "."
  | .colon => ":"
  | .doubleColon => "::"
  | .leftParen => "("
  | .rightParen => ")"
  | .leftBrace => "\x7b"
  | .rightBrace => "\x7d"
  | .leftBracket => "["
  | .rightBracket => "]"

/-- The symbols of two characters. -/
def pairs : List ((Char × Char) × Symbol) :=
  [(('=', '='), .equal), (('!', '='), .notEqual), (('<', '='), .lessEqual),
    (('>', '='), .greaterEqual), (('&', '&'), .logicalAnd), (('|', '|'), .logicalOr),
    (('+', '='), .plusAssign), (('-', '='), .minusAssign), (('*', '='), .multiplyAssign),
    (('/', '='), .divideAssign), (('<', '<'), .leftShift), (('>', '>'), .rightShift),
    ((':', ':'), .doubleColon)]

/-- The symbols of one character. -/
def singles : List (Char × Symbol) :=
  [('<', .less), ('>', .greater), ('=', .assign), ('+', .plus), ('-', .minus), ('*', .multiply),
    ('/', .divide), ('%', .modulo), ('!', .logicalNot), ('&', .bitwiseAnd), ('|', .bitwiseOr),
    ('^', .bitwiseXor), ('~', .bitwiseNot), (';', .semicolon), (',', .comma), ('.', .period),
    (':', .colon), ('(', .leftParen), (')', .rightParen), ('\x7b', .leftBrace),
    ('\x7d', .rightBrace), ('[', .leftBracket), (']', .rightBracket)]

/-- The symbol that two characters in a row stand for. -/
def ofPair? (first second : Char) : Option Symbol :=
  pairs.lookup (first, second)

/-- The symbol that one character stands for. -/
def ofChar? (char : Char) : Option Symbol :=
  singles.lookup char

end Symbol

/-- The text that a kind stands for by itself: the spelling of a symbol, and nothing for every
other kind. -/
def Token.Kind.fixedText : Kind → String
  | .symbol sign => sign.spelling
  | _ => ""

end SourceLexer
