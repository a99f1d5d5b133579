import SqlDialects.Text.Case

/-!
# Dialect names

**Input.** Any spelling of a dialect.

**Rule.** Names are compared in lower case with hyphens and underscores left out, so `PostgreSQL`,
`post_gres` and `POST-GRES` are one name.
-/

namespace SqlDialects
namespace Dialect

/-- Whether a character only separates the parts of a name. -/
def isSeparator (c : Char) : Bool :=
  c = '-' || c = '_'

/-- The characters of a name as it is compared. -/
def normalizeChars (cs : List Char) : List Char :=
  (Text.lowerChars cs).filter fun c => !isSeparator c

/-- A name as it is compared. -/
def normalize (s : String) : String :=
  String.ofList (normalizeChars s.toList)

end Dialect
end SqlDialects
