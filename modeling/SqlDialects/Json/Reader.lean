import SqlDialects.Decimal.Notation
import SqlDialects.Json.Basic

/-!
# Reading JSON

**Input.** Any text.

**Grammar.** JSON with the words `NaN`, `Infinity` and `-Infinity`. A number without fraction and
exponent is an integer of at most 4300 digits; any other is the nearest double. Blanks are the
space, the tab, the line feed and the carriage return. The last of several members of one name
wins and stands where the first one stood.

**Results.**
* `Json.read` gives the value or a `Fault`, with the place of the fault in characters.
* `Fault.message` is the text that reports it, with line and column.
-/

namespace SqlDialects
namespace Json

/-- The containers of the grammar. -/
inductive Container where
  | array
  | object
deriving DecidableEq, Repr

/-- What is wrong at a place of a text. -/
inductive Problem where
  | expectedValue
  | expectedName
  | expectedColon
  | expectedComma
  | extraData
  | byteOrderMark
  | controlCharacter
  | unterminatedString
  | invalidEscape
  | invalidUnitEscape
deriving DecidableEq, Repr

/-- Why a text is not read. -/
inductive Fault where
  | malformed (problem : Problem) (place : Nat)
  | tooManyDigits (count : Nat)
  | tooDeep (container : Container)
deriving DecidableEq, Repr

/-- The words that report a problem. -/
def Problem.words : Problem → String
  | .expectedValue => "Expecting value"
  | .expectedName => "Expecting property name enclosed in double quotes"
  | .expectedColon => "Expecting ':' delimiter"
  | .expectedComma => "Expecting ',' delimiter"
  | .extraData => "Extra data"
  | .byteOrderMark => "Unexpected UTF-8 BOM (decode using utf-8-sig)"
  | .controlCharacter => "Invalid control character at"
  | .unterminatedString => "Unterminated string starting at"
  | .invalidEscape => "Invalid \\escape"
  | .invalidUnitEscape => "Invalid \\uXXXX escape"

/-- The most digits that an integer may have. -/
def digitLimit : Nat :=
  4300

/-- The most containers that may be nested. -/
def nestingLimit : Nat :=
  900

/-- What a reader gives: a value, the place after it and what follows there. -/
structure Read (α : Type) where
  value : α
  place : Nat
  rest : List Char

/-- Whether a character is a blank of the grammar. -/
def isBlank (c : Char) : Bool :=
  c = ' ' || c = '\t' || c = '\n' || c = '\r'

/-- Goes past blanks. -/
def skipBlanks : Nat → List Char → Nat × List Char
  | place, [] => (place, [])
  | place, c :: cs => if isBlank c then skipBlanks (place + 1) cs else (place, c :: cs)

/-- The value of a hexadecimal digit. -/
def hexValue? (c : Char) : Option Nat :=
  if '0' ≤ c ∧ c ≤ '9' then some (c.toNat - 48)
  else if 'a' ≤ c ∧ c ≤ 'f' then some (c.toNat - 87)
  else if 'A' ≤ c ∧ c ≤ 'F' then some (c.toNat - 55)
  else none

/-- The unit that four hexadecimal digits denote. -/
def unitValue? (a b c d : Char) : Option Nat := do
  let i ← hexValue? a
  let j ← hexValue? b
  let k ← hexValue? c
  let l ← hexValue? d
  return ((i * 16 + j) * 16 + k) * 16 + l

/-- Whether a unit opens a surrogate pair. -/
def isHighUnit (n : Nat) : Bool :=
  55296 ≤ n && n < 56320

/-- Whether a unit closes a surrogate pair. -/
def isLowUnit (n : Nat) : Bool :=
  56320 ≤ n && n < 57344

/-- The character of a unit; a unit without its partner is no character and is replaced. -/
def unitChar (n : Nat) : Char :=
  if isHighUnit n || isLowUnit n then '\ufffd' else Char.ofNat n

/-- The character that a letter after a backslash stands for. -/
def shortEscape? (c : Char) : Option Char :=
  if c = '"' then some '"'
  else if c = '\\' then some '\\'
  else if c = '/' then some '/'
  else if c = 'b' then some '\x08'
  else if c = 'f' then some '\x0c'
  else if c = 'n' then some '\n'
  else if c = 'r' then some '\r'
  else if c = 't' then some '\t'
  else none

/-- Puts a character in front of what is read. -/
def Read.cons (c : Char) (r : Read (List Char)) : Read (List Char) :=
  ⟨c :: r.value, r.place, r.rest⟩

/-- How the unit of a surrogate pair that may follow a first one is found. -/
inductive Partner where
  /-- No partner follows. -/
  | absent
  /-- An escape follows that is none. -/
  | broken
  /-- The second unit of the pair. -/
  | unit (n : Nat)

/-- The partner of a first unit in what follows its escape. A second escape counts only when a
character follows it. -/
def partner (hi : Nat) : List Char → Partner
  | '\\' :: 'u' :: k₁ :: k₂ :: k₃ :: k₄ :: _ :: _ =>
    if isHighUnit hi then
      match unitValue? k₁ k₂ k₃ k₄ with
      | none => .broken
      | some lo => if isLowUnit lo then .unit lo else .absent
    else .absent
  | _ => .absent

/-- The character of a surrogate pair. -/
def pairChar (hi lo : Nat) : Char :=
  Char.ofNat (65536 + (hi - 55296) * 1024 + (lo - 56320))

/-- Reads the rest of a string, from the character at `place` on; it opened at `start`. -/
def readString (start : Nat) : Nat → List Char → Except Fault (Read (List Char))
  | _, [] => .error (.malformed .unterminatedString start)
  | place, '"' :: cs => .ok ⟨[], place + 1, cs⟩
  | _, ['\\'] => .error (.malformed .unterminatedString start)
  | place, '\\' :: 'u' :: h₁ :: h₂ :: h₃ :: h₄ :: after :: cs =>
    match unitValue? h₁ h₂ h₃ h₄ with
    | none => .error (.malformed .invalidUnitEscape (place + 1))
    | some hi =>
      match partner hi (after :: cs) with
      | .broken => .error (.malformed .invalidUnitEscape (place + 7))
      | .unit lo => (readString start (place + 12) (cs.drop 5)).map (.cons (pairChar hi lo))
      | .absent => (readString start (place + 6) (after :: cs)).map (.cons (unitChar hi))
  | place, '\\' :: 'u' :: _ => .error (.malformed .invalidUnitEscape (place + 1))
  | place, '\\' :: e :: cs =>
    match shortEscape? e with
    | some c => (readString start (place + 2) cs).map (.cons c)
    | none => .error (.malformed .invalidEscape place)
  | place, c :: cs =>
    if c.toNat < 32 then .error (.malformed .controlCharacter place)
    else (readString start (place + 1) cs).map (.cons c)
termination_by _ cs => cs.length
decreasing_by
  all_goals simp_wf
  all_goals omega

/-- Whether a character is a decimal digit. -/
def isDigit (c : Char) : Bool :=
  '0' ≤ c && c ≤ '9'

/-- The digits at the front and what follows them. -/
def takeDigits : List Char → List Char × List Char
  | [] => ([], [])
  | c :: cs =>
    if isDigit c then
      let (ds, rest) := takeDigits cs
      (c :: ds, rest)
    else ([], c :: cs)

/-- The integer part of a number: one zero, or digits that do not start with zero. -/
def takeWhole : List Char → Option (List Char × List Char)
  | '0' :: cs => some (['0'], cs)
  | cs =>
    match takeDigits cs with
    | ([], _) => none
    | (ds, rest) => some (ds, rest)

/-- The digits after a point, if a digit follows the point. -/
def takeFraction : List Char → Option (List Char × List Char)
  | '.' :: cs =>
    match takeDigits cs with
    | ([], _) => none
    | (ds, rest) => some (ds, rest)
  | _ => none

/-- A decimal exponent: how many characters it takes, its value and what follows. -/
structure Exponent where
  size : Nat
  value : Int
  rest : List Char

/-- An exponent, if its letter is followed by digits. -/
def takeExponent : List Char → Option Exponent
  | e :: cs =>
    if e = 'e' ∨ e = 'E' then
      let (negative, sign, ds) :=
        match cs with
        | '-' :: r => (true, 1, r)
        | '+' :: r => (false, 1, r)
        | r => (false, 0, r)
      match takeDigits ds with
      | ([], _) => none
      | (ds, rest) =>
        let n : Int := Decimal.digitsValue ds
        some ⟨1 + sign + ds.length, if negative then -n else n, rest⟩
    else none
  | [] => none

/-- The integer of some digits, if there are not too many. -/
def readInteger (negative : Bool) (ds : List Char) : Except Fault Json :=
  if digitLimit < ds.length then .error (.tooManyDigits ds.length)
  else
    let n : Int := Decimal.digitsValue ds
    .ok (.int (if negative then -n else n))

/-- Reads a number whose sign has been read; the number as a whole starts at `start`. -/
def readNumber (start : Nat) (negative : Bool) (place : Nat) (cs : List Char) :
    Except Fault (Read Json) :=
  match takeWhole cs with
  | none => .error (.malformed .expectedValue start)
  | some (whole, rest) =>
    let place := place + whole.length
    let (fraction, place, rest, exact) :=
      match takeFraction rest with
      | some (ds, r) => (ds, place + 1 + ds.length, r, false)
      | none => ([], place, rest, true)
    match takeExponent rest with
    | some e =>
      let x := Decimal.floatOf negative (Decimal.digitsValue (whole ++ fraction))
        (e.value - fraction.length)
      .ok ⟨.float x, place + e.size, e.rest⟩
    | none =>
      if exact then (readInteger negative whole).map fun v => ⟨v, place, rest⟩
      else
        let x := Decimal.floatOf negative (Decimal.digitsValue (whole ++ fraction))
          (-(fraction.length : Int))
        .ok ⟨.float x, place, rest⟩

/-- The double that is no number. -/
def nan : Float :=
  0.0 / 0.0

/-- The infinite doubles. -/
def infinity (negative : Bool) : Float :=
  if negative then -1.0 / 0.0 else 1.0 / 0.0

/-- Reads a value that is neither a string nor a container. -/
def readAtom (place : Nat) : List Char → Except Fault (Read Json)
  | 'n' :: 'u' :: 'l' :: 'l' :: cs => .ok ⟨.null, place + 4, cs⟩
  | 't' :: 'r' :: 'u' :: 'e' :: cs => .ok ⟨.bool true, place + 4, cs⟩
  | 'f' :: 'a' :: 'l' :: 's' :: 'e' :: cs => .ok ⟨.bool false, place + 5, cs⟩
  | 'N' :: 'a' :: 'N' :: cs => .ok ⟨.float nan, place + 3, cs⟩
  | 'I' :: 'n' :: 'f' :: 'i' :: 'n' :: 'i' :: 't' :: 'y' :: cs =>
    .ok ⟨.float (infinity false), place + 8, cs⟩
  | '-' :: 'I' :: 'n' :: 'f' :: 'i' :: 'n' :: 'i' :: 't' :: 'y' :: cs =>
    .ok ⟨.float (infinity true), place + 9, cs⟩
  | '-' :: cs => readNumber place true (place + 1) cs
  | cs => readNumber place false place cs

mutual

/-- Reads one value. `depth` bounds the containers inside each other and `fuel` the steps. -/
def readValue : (fuel depth place : Nat) → List Char → Except Fault (Read Json)
  | 0, _, place, _ => .error (.malformed .expectedValue place)
  | _ + 1, _, place, '"' :: cs =>
    (readString place (place + 1) cs).map fun r => ⟨.text (String.ofList r.value), r.place, r.rest⟩
  | fuel + 1, depth, place, '[' :: cs =>
    match depth with
    | 0 => .error (.tooDeep .array)
    | depth + 1 =>
      match skipBlanks (place + 1) cs with
      | (p, ']' :: rest) => .ok ⟨.array [], p + 1, rest⟩
      | (p, rest) => (readItems fuel depth p rest).map fun r => ⟨.array r.value, r.place, r.rest⟩
  | fuel + 1, depth, place, '\x7b' :: cs =>
    match depth with
    | 0 => .error (.tooDeep .object)
    | depth + 1 =>
      match skipBlanks (place + 1) cs with
      | (p, '\x7d' :: rest) => .ok ⟨.object [], p + 1, rest⟩
      | (p, rest) =>
        (readMembers fuel depth p rest).map fun r =>
          ⟨.object (mergeMembers r.value), r.place, r.rest⟩
  | _ + 1, _, place, cs => readAtom place cs

/-- Reads the items of an array up to its closing bracket; there is at least one. -/
def readItems : (fuel depth place : Nat) → List Char → Except Fault (Read (List Json))
  | 0, _, place, _ => .error (.malformed .expectedValue place)
  | fuel + 1, depth, place, cs =>
    match readValue fuel depth place cs with
    | .error e => .error e
    | .ok first =>
      match skipBlanks first.place first.rest with
      | (p, ']' :: rest) => .ok ⟨[first.value], p + 1, rest⟩
      | (p, ',' :: rest) =>
        let (p, rest) := skipBlanks (p + 1) rest
        (readItems fuel depth p rest).map fun r => ⟨first.value :: r.value, r.place, r.rest⟩
      | (p, _) => .error (.malformed .expectedComma p)

/-- Reads the members of an object up to its closing brace; there is at least one. -/
def readMembers :
    (fuel depth place : Nat) → List Char → Except Fault (Read (List (String × Json)))
  | 0, _, place, _ => .error (.malformed .expectedName place)
  | fuel + 1, depth, place, '"' :: cs =>
    match readString place (place + 1) cs with
    | .error e => .error e
    | .ok name =>
      match skipBlanks name.place name.rest with
      | (p, ':' :: rest) =>
        let (p, rest) := skipBlanks (p + 1) rest
        match readValue fuel depth p rest with
        | .error e => .error e
        | .ok first =>
          let m := (String.ofList name.value, first.value)
          match skipBlanks first.place first.rest with
          | (p, '\x7d' :: rest) => .ok ⟨[m], p + 1, rest⟩
          | (p, ',' :: rest) =>
            let (p, rest) := skipBlanks (p + 1) rest
            (readMembers fuel depth p rest).map fun r => ⟨m :: r.value, r.place, r.rest⟩
          | (p, _) => .error (.malformed .expectedComma p)
      | (p, _) => .error (.malformed .expectedColon p)
  | _ + 1, _, place, _ => .error (.malformed .expectedName place)

end

/-- Reads a whole text as one value. -/
def readChars (cs : List Char) : Except Fault Json :=
  match cs with
  | '\ufeff' :: _ => .error (.malformed .byteOrderMark 0)
  | _ =>
    let (place, rest) := skipBlanks 0 cs
    match readValue (2 * cs.length + 2) nestingLimit place rest with
    | .error e => .error e
    | .ok r =>
      match skipBlanks r.place r.rest with
      | (_, []) => .ok r.value
      | (place, _) => .error (.malformed .extraData place)

/-- Reads a whole string as one value. -/
def read (s : String) : Except Fault Json :=
  readChars s.toList

/-- Line and column of a place, counted from one; lines end at line feeds. -/
def lineAndColumn (place : Nat) (cs : List Char) : Nat × Nat :=
  let before := cs.take place
  let line := before.count '\n' + 1
  (line, (before.reverse.takeWhile (· ≠ '\n')).length + 1)

/-- The text that reports a fault of a text. -/
def Fault.message (cs : List Char) : Fault → String
  | .malformed problem place =>
    let (line, column) := lineAndColumn place cs
    problem.words ++ ": line " ++ toString line ++ " column " ++ toString column
      ++ " (char " ++ toString place ++ ")"
  | .tooManyDigits count =>
    "Exceeds the limit (4300 digits) for integer string conversion: value has "
      ++ toString count ++ " digits; use sys.set_int_max_str_digits() to increase the limit"
  | .tooDeep .array =>
    "maximum recursion depth exceeded while decoding a JSON array from a unicode string"
  | .tooDeep .object =>
    "maximum recursion depth exceeded while decoding a JSON object from a unicode string"

end Json
end SqlDialects
