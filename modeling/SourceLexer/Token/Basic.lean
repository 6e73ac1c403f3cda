import SourceLexer.Argument
import SourceLexer.Location
import SourceLexer.Token.Spelling

/-!
# Tokens

A token is a kind, its text if the kind carries one, and the place where it starts.

## Two ways to a token

A caller describes a token by a `Token.Draft`, whose parts can be anything, and `Draft.check`
either makes a token of it or says what is wrong.  Reading a source text builds tokens without
that detour; that they would pass the check is a theorem about reading, not a check at run time.
`Token.WellFormed` is what both agree on.
-/

namespace SourceLexer

/-- A token of a source text. -/
structure Token where
  kind : Token.Kind
  /-- The text of the token as it stands in the source, for kinds whose text varies. -/
  lexeme : Option String
  line : Int
  column : Int
  filename : String
  deriving DecidableEq, Repr

namespace Token

/-- A token is well formed when it carries text exactly if its kind does. -/
def WellFormed (token : Token) : Prop :=
  token.lexeme.isSome = token.kind.carriesText

instance (token : Token) : Decidable token.WellFormed :=
  inferInstanceAs (Decidable (_ = _))

/-- The text that the token stands for: its own, or the one that its kind implies. -/
def text (token : Token) : String :=
  token.lexeme.getD token.kind.fixedText

/-- The place where the token starts. -/
def location (token : Token) : Location :=
  ⟨token.filename, token.line, token.column⟩

/-- The form in which a message shows a token; the name of the source text is left out. -/
def render (token : Token) : String :=
  match token.lexeme with
  | some lexeme =>
    s!"Token({token.kind.name}, {Text.quote lexeme}, {token.line}:{token.column})"
  | none => s!"Token({token.kind.name}, {token.line}:{token.column})"

/-- A description of a token that has not been checked. -/
structure Draft where
  /-- A kind, or a value that is none. -/
  kind : Argument ⊕ Token.Kind
  lexeme : Argument := .null
  line : Int := 1
  column : Int := 1
  filename : String := "<input>"
  deriving DecidableEq, Repr

/-- The token that a draft describes.  The kind is looked at first, then whether text is there,
and last what the text is, so a draft with several faults is refused for the first of them. -/
def Draft.check (draft : Draft) : Except ArgumentFault Token :=
  match draft.kind with
  | .inl given => .error (.unknownKind given)
  | .inr kind =>
    match draft.lexeme, kind.carriesText with
    | .null, true => .error (.lexemeMissing kind)
    | .null, false => .ok ⟨kind, none, draft.line, draft.column, draft.filename⟩
    | given, false => .error (.lexemeUnexpected kind given)
    | .text lexeme, true =>
      .ok ⟨kind, some lexeme, draft.line, draft.column, draft.filename⟩
    | given, true => .error (.lexemeNotText given)

/-- The draft that describes a given token. -/
def toDraft (token : Token) : Draft :=
  ⟨.inr token.kind, token.lexeme.elim .null .text, token.line, token.column, token.filename⟩

/-- The check of a draft lets exactly the well formed tokens through, unchanged. -/
theorem check_toDraft {token : Token} : token.toDraft.check = .ok token ↔ token.WellFormed := by
  obtain ⟨kind, lexeme, line, column, filename⟩ := token
  cases lexeme <;> cases h : kind.carriesText <;> simp [toDraft, Draft.check, WellFormed, h]

end Token

end SourceLexer
