/-!
# Blanks

The characters that separate words, beyond ASCII too.

**Classes.**
* `isBlank` is the white space of the Unicode standard.
* `isSpace` counts the four information separators of ASCII as well.
-/

namespace SqlDialects
namespace Text

/-- Whether a character is white space. -/
def isBlank (c : Char) : Bool :=
  let n := c.toNat
  n = 32 || (9 ≤ n && n ≤ 13) || n = 133 || n = 160 || n = 5760 || (8192 ≤ n && n ≤ 8202)
    || n = 8232 || n = 8233 || n = 8239 || n = 8287 || n = 12288

/-- Whether a character is white space or an information separator. -/
def isSpace (c : Char) : Bool :=
  isBlank c || (28 ≤ c.toNat && c.toNat ≤ 31)

/-- A text without the characters of a class at its end. -/
def trimEnd (p : Char → Bool) (cs : List Char) : List Char :=
  (cs.reverse.dropWhile p).reverse

/-- A text without the characters of a class around it. -/
def trim (p : Char → Bool) (cs : List Char) : List Char :=
  trimEnd p (cs.dropWhile p)

/-- A text in which every line ends with a line feed. -/
def universalNewlines : List Char → List Char
  | [] => []
  | '\r' :: '\n' :: cs => '\n' :: universalNewlines cs
  | c :: cs => (if c = '\r' then '\n' else c) :: universalNewlines cs

end Text
end SqlDialects
