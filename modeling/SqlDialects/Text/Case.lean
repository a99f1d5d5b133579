import SqlDialects.Text.CaseTable
import SqlDialects.Text.Ranges

/-!
# Letter case

**Input.** Any text.

**Mappings.**
* `lower` and `upper` are the full mappings of the Unicode standard: a character may become
  several, and a capital sigma that ends a word becomes the final small sigma.
* `asciiLower` touches the twenty-six ASCII capitals only.

**Results.**
* Beyond ASCII only the Kelvin sign and the dotted capital i have an ASCII letter in their
  lower case.
-/

namespace SqlDialects
namespace Text

/-- The small letter of an ASCII capital; any other character is kept. -/
def asciiLower (c : Char) : Char :=
  if 'A' ≤ c ∧ c ≤ 'Z' then Char.ofNat (c.toNat + 32) else c

/-- The capital of an ASCII small letter; any other character is kept. -/
def asciiUpper (c : Char) : Char :=
  if 'a' ≤ c ∧ c ≤ 'z' then Char.ofNat (c.toNat - 32) else c

/-- The characters that a code point is mapped to by runs and exceptions, or itself. -/
def caseImage (runs : List CaseRun) (special : List (Nat × List Nat)) (c : Char) : List Char :=
  match special.find? fun e => e.1 == c.toNat with
  | some e => e.2.map Char.ofNat
  | none =>
    match runs.find? fun r => r.covers c.toNat with
    | some r => [Char.ofNat ((c.toNat : Int) + r.offset).toNat]
    | none => [c]

/-- The lower case of one character, its neighbours aside. -/
def lowerChar (c : Char) : List Char :=
  if c.toNat < 128 then [asciiLower c] else caseImage lowerRuns lowerSpecial c

/-- The upper case of one character. -/
def upperChar (c : Char) : List Char :=
  if c.toNat < 128 then [asciiUpper c] else caseImage upperRuns upperSpecial c

/-- Whether the first character that is not case-ignorable is cased. -/
def meetsCased : List Char → Bool
  | [] => false
  | c :: cs => if inRanges caseIgnorableRanges c then meetsCased cs else inRanges casedRanges c

/-- Lower case of the rest of a text; `before` holds what precedes it, nearest first. -/
def lowerFrom (before : List Char) : List Char → List Char
  | [] => []
  | c :: cs =>
    if c = 'Σ' then
      (if meetsCased before && !meetsCased cs then 'ς' else 'σ') :: lowerFrom (c :: before) cs
    else lowerChar c ++ lowerFrom (c :: before) cs

/-- Lower case of a text. -/
def lowerChars (cs : List Char) : List Char :=
  lowerFrom [] cs

/-- Upper case of a text. -/
def upperChars (cs : List Char) : List Char :=
  cs.flatMap upperChar

/-- Lower case of a string. -/
def lower (s : String) : String :=
  String.ofList (lowerChars s.toList)

/-- Upper case of a string. -/
def upper (s : String) : String :=
  String.ofList (upperChars s.toList)

end Text
end SqlDialects
