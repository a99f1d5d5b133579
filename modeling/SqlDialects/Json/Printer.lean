import SqlDialects.Decimal.Notation
import SqlDialects.Json.Basic
import SqlDialects.Text.Quoted

/-!
# Printing JSON

**Input.** A JSON value and a style.

**Styles.**
* `plain` leaves characters beyond ASCII as they are and puts a space after commas and colons.
* `ascii` escapes every character beyond ASCII by its UTF-16 units.
* `compact` has no spaces.

A string escapes the quotation mark, the backslash and the control characters. The doubles that
are not finite are written `NaN`, `Infinity` and `-Infinity`.
-/

namespace SqlDialects
namespace Json

/-- How a value is laid out. -/
structure Style where
  /-- Whether characters beyond ASCII are escaped. -/
  ascii : Bool
  /-- What stands between two items or members. -/
  comma : List Char
  /-- What stands between a name and its value. -/
  colon : List Char

/-- Characters as they are, a space after commas and colons. -/
def plain : Style :=
  ⟨false, [',', ' '], [':', ' ']⟩

/-- ASCII only, a space after commas and colons. -/
def ascii : Style :=
  ⟨true, [',', ' '], [':', ' ']⟩

/-- Characters as they are, no spaces. -/
def compact : Style :=
  ⟨false, [','], [':']⟩

/-- The escape of one sixteen-bit unit. -/
def unitEscape (n : Nat) : List Char :=
  '\\' :: 'u' :: Text.hexDigits 4 n

/-- A character by its UTF-16 units. -/
def utf16Escape (c : Char) : List Char :=
  let n := c.toNat
  if n < 65536 then unitEscape n
  else unitEscape (55296 + (n - 65536) / 1024) ++ unitEscape (56320 + (n - 65536) % 1024)

/-- One character inside a string. -/
def charEscape (asciiOnly : Bool) (c : Char) : List Char :=
  if c = '"' then ['\\', '"']
  else if c = '\\' then ['\\', '\\']
  else if c = '\n' then ['\\', 'n']
  else if c = '\r' then ['\\', 'r']
  else if c = '\t' then ['\\', 't']
  else if c = '\x08' then ['\\', 'b']
  else if c = '\x0c' then ['\\', 'f']
  else if c.toNat < 32 then unitEscape c.toNat
  else if asciiOnly && 126 < c.toNat then utf16Escape c
  else [c]

/-- A string with its quotation marks. -/
def stringChars (asciiOnly : Bool) (s : String) : List Char :=
  '"' :: s.toList.flatMap (charEscape asciiOnly) ++ ['"']

/-- Words for doubles that are not finite. -/
def floatWords : Decimal.FloatWords :=
  ⟨"NaN", "Infinity"⟩

/-- The text of a double. -/
def floatText (x : Float) : String :=
  Decimal.floatText floatWords x

mutual

/-- The characters of a value. -/
def chars (style : Style) : Json → List Char
  | .null => ['n', 'u', 'l', 'l']
  | .bool true => ['t', 'r', 'u', 'e']
  | .bool false => ['f', 'a', 'l', 's', 'e']
  | .int i => Decimal.intChars i
  | .float x => (floatText x).toList
  | .text s => stringChars style.ascii s
  | .array items => '[' :: itemChars style items ++ [']']
  | .object members => '\x7b' :: memberChars style members ++ ['\x7d']

/-- The items of an array, with commas between them. -/
def itemChars (style : Style) : List Json → List Char
  | [] => []
  | [v] => chars style v
  | v :: w :: vs => chars style v ++ style.comma ++ itemChars style (w :: vs)

/-- The members of an object, with commas between them. -/
def memberChars (style : Style) : List (String × Json) → List Char
  | [] => []
  | [(n, v)] => stringChars style.ascii n ++ style.colon ++ chars style v
  | (n, v) :: m :: ms =>
    stringChars style.ascii n ++ style.colon ++ chars style v ++ style.comma
      ++ memberChars style (m :: ms)

end

/-- The text of a value. -/
def render (style : Style) (v : Json) : String :=
  String.ofList (chars style v)

/-- An array of strings on several lines, ASCII only: every string on a line of its own, two
columns in. -/
def listing : List String → List Char
  | [] => ['[', ']']
  | l =>
    '[' :: '\n' :: List.intercalate [',', '\n'] (l.map fun s => ' ' :: ' ' :: stringChars true s)
      ++ ['\n', ']']

end Json
end SqlDialects
