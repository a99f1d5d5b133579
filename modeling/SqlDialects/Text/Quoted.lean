import SqlDialects.Text.Printable

/-!
# Quoted text

How a text is shown inside a message: between quotation marks, on one line, in printable
characters only.

**Rules.**
* Single marks are used, unless the text holds a single mark and no double one.
* A backslash and the mark in use are written after a backslash.
* Tab, line feed and carriage return have short escapes; any other unprintable character is
  written by its code point in two, four or eight hexadecimal digits.
-/

namespace SqlDialects
namespace Text

/-- The small hexadecimal digit of a number below sixteen. -/
def hexDigit (n : Nat) : Char :=
  if n < 10 then Char.ofNat (48 + n) else Char.ofNat (87 + n)

/-- The last `count` hexadecimal digits of a number. -/
def hexDigits : (count n : Nat) → List Char
  | 0, _ => []
  | k + 1, n => hexDigits k (n / 16) ++ [hexDigit (n % 16)]

/-- The mark that a text is quoted with. -/
def quoteMark (cs : List Char) : Char :=
  if cs.contains '\'' && !cs.contains '"' then '"' else '\''

/-- One character as it is written between two marks. -/
def quoteChar (mark c : Char) : List Char :=
  if c = '\\' then ['\\', '\\']
  else if c = mark then ['\\', c]
  else if c = '\t' then ['\\', 't']
  else if c = '\n' then ['\\', 'n']
  else if c = '\r' then ['\\', 'r']
  else if isPrintable c then [c]
  else if c.toNat < 256 then '\\' :: 'x' :: hexDigits 2 c.toNat
  else if c.toNat < 65536 then '\\' :: 'u' :: hexDigits 4 c.toNat
  else '\\' :: 'U' :: hexDigits 8 c.toNat

/-- A text between quotation marks. -/
def quotedChars (cs : List Char) : List Char :=
  let mark := quoteMark cs
  mark :: cs.flatMap (quoteChar mark) ++ [mark]

/-- A string between quotation marks. -/
def quoted (s : String) : String :=
  String.ofList (quotedChars s.toList)

/-- Strings, each quoted, between square brackets. -/
def quotedList (l : List String) : String :=
  "[" ++ ", ".intercalate (l.map quoted) ++ "]"

/-- Strings, each quoted, between parentheses; a single one is followed by a comma. -/
def quotedTuple : List String → String
  | [s] => "(" ++ quoted s ++ ",)"
  | l => "(" ++ ", ".intercalate (l.map quoted) ++ ")"

end Text
end SqlDialects
