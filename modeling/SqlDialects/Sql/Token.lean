import SqlDialects.Sql.Token.Kind
import SqlDialects.Text.Quoted

/-!
# Tokens

A token knows where it stands, so that messages and trees can point at it.

**Results.**
* `Token.describe` is the text for a token in messages.
* `Token.sentinel` stands where no token is left.
-/

namespace SqlDialects
namespace Sql

/-- Where a token stands: the line, the column of its last character, and the offsets of its first
and its last character. -/
structure Place where
  line : Nat
  column : Nat
  start : Nat
  stop : Nat
deriving DecidableEq, Repr, Inhabited

/-- A token with the comments that belong to it. The text of a quoted name or of a string literal
is what stands between the quotes. -/
structure Token where
  kind : TokenKind
  text : String
  place : Place
  comments : List String
deriving Repr

namespace Token

/-- The token that stands where none is left. -/
def sentinel : Token :=
  ⟨.SENTINEL, "SENTINEL", ⟨1, 1, 0, 0⟩, []⟩

/-- A token in messages. -/
def describe (t : Token) : String :=
  "<Token token_type: TokenType." ++ t.kind.label ++ ", text: " ++ t.text
    ++ ", line: " ++ toString t.place.line ++ ", col: " ++ toString t.place.column
    ++ ", start: " ++ toString t.place.start ++ ", end: " ++ toString t.place.stop
    ++ ", comments: " ++ Text.quotedList t.comments ++ ">"

end Token
end Sql
end SqlDialects
