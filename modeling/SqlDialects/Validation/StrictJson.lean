import SqlDialects.Json.Reader

/-!
# Strict JSON

A second reader of JSON, for models. It accepts the same values as the reader of interchange
texts, and words its refusals in its own way: what it was reading when it had to stop, with line
and column in bytes.

**Results.**
* `StrictJson.read` gives the value or the reason why the text is not JSON.
-/

namespace SqlDialects
namespace Validation
namespace StrictJson

/-- What a reader was doing when it had to stop. -/
inductive Stop where
  | endInList
  | endInObject
  | endInString
  | endInValue
  | expectedColon
  | expectedListComma
  | expectedObjectComma
  | expectedWord
  | expectedValue
  | invalidEscape
  | invalidNumber
  | loneSurrogate
  | brokenPair
  | numberTooLong
  | controlCharacter
  | expectedKey
  | trailingComma
  | trailingCharacters
  | tooDeep
deriving DecidableEq, Repr

/-- The words for a stop. -/
def Stop.words : Stop → String
  | .endInList => "EOF while parsing a list"
  | .endInObject => "EOF while parsing an object"
  | .endInString => "EOF while parsing a string"
  | .endInValue => "EOF while parsing a value"
  | .expectedColon => "expected \x60:\x60"
  | .expectedListComma => "expected \x60,\x60 or \x60]\x60"
  | .expectedObjectComma => "expected \x60,\x60 or \x60\x7d\x60"
  | .expectedWord => "expected ident"
  | .expectedValue => "expected value"
  | .invalidEscape => "invalid escape"
  | .invalidNumber => "invalid number"
  | .loneSurrogate => "lone leading surrogate in hex escape"
  | .brokenPair => "unexpected end of hex escape"
  | .numberTooLong => "number out of range"
  | .controlCharacter => "control character (\\u0000-\\u001F) found while parsing a string"
  | .expectedKey => "key must be a string"
  | .trailingComma => "trailing comma"
  | .trailingCharacters => "trailing characters"
  | .tooDeep => "recursion limit exceeded"

/-- A stop together with what had not been read. -/
abbrev Refusal := Stop × List Char

/-- Reading, which may be refused. What is read comes with what follows it. -/
abbrev Reading := Except Refusal

/-- The most containers that may be nested. -/
def nestingLimit : Nat :=
  200

/-- What follows blanks. -/
def skip (cs : List Char) : List Char :=
  cs.dropWhile Json.isBlank

/-- Reads the rest of a word. -/
def word (v : Json) : List Char → List Char → Reading (Json × List Char)
  | [], cs => .ok (v, cs)
  | _ :: _, [] => .error (.endInValue, [])
  | e :: es, c :: cs => if e = c then word v es cs else .error (.expectedWord, c :: cs)

/-- The bytes of some characters. -/
def byteCount (cs : List Char) : Nat :=
  cs.foldl (fun n c => n + c.utf8Size) 0

/-- Reads four hexadecimal digits. The last one comes with what follows, for a refusal that points
at it. -/
def unit (cs : List Char) : Reading (Nat × Char × List Char) :=
  match cs with
  | a :: b :: c :: d :: rest =>
    match Json.unitValue? a b c d with
    | some n => .ok (n, d, rest)
    | none => .error (.invalidEscape, cs.dropWhile fun x => (Json.hexValue? x).isSome)
  | _ =>
    if byteCount cs < 4 then .error (.endInString, [])
    else .error (.invalidEscape, cs.dropWhile fun x => (Json.hexValue? x).isSome)

/-- Reads the character of an escape from its hexadecimal digits on: one unit, or two that are a
pair. -/
def unitEscape (cs : List Char) : Reading (Char × List Char) := do
  let (hi, last, rest) ← unit cs
  if Json.isLowUnit hi then .error (.loneSurrogate, last :: rest)
  else if Json.isHighUnit hi then
    match rest with
    | [] => .error (.endInString, [])
    | ['\\'] => .error (.endInString, [])
    | '\\' :: 'u' :: more =>
      let (lo, last, rest) ← unit more
      if Json.isLowUnit lo then .ok (Json.pairChar hi lo, rest)
      else .error (.loneSurrogate, last :: rest)
    | '\\' :: more => .error (.brokenPair, more)
    | more => .error (.brokenPair, more)
  else .ok (Char.ofNat hi, rest)

/-- Reads the rest of a string. -/
def string : (fuel : Nat) → List Char → Reading (List Char × List Char)
  | 0, cs => .error (.endInString, cs)
  | _ + 1, [] => .error (.endInString, [])
  | _ + 1, '"' :: cs => .ok ([], cs)
  | fuel + 1, '\\' :: 'u' :: cs => do
    let (c, rest) ← unitEscape cs
    let (s, rest) ← string fuel rest
    .ok (c :: s, rest)
  | _ + 1, ['\\'] => .error (.endInString, [])
  | fuel + 1, '\\' :: e :: cs =>
    match Json.shortEscape? e with
    | some c => do
      let (s, rest) ← string fuel cs
      .ok (c :: s, rest)
    | none => .error (.invalidEscape, e :: cs)
  | fuel + 1, c :: cs =>
    if c.toNat < 32 then .error (.controlCharacter, c :: cs)
    else do
      let (s, rest) ← string fuel cs
      .ok (c :: s, rest)

/-- Reads digits, of which there is at least one. -/
def digits (cs : List Char) : Reading (List Char × List Char) :=
  match Json.takeDigits cs, cs with
  | ([], _), [] => .error (.endInValue, [])
  | ([], _), c :: r => .error (.invalidNumber, c :: r)
  | (ds, rest), _ => .ok (ds, rest)

/-- Reads a fraction, if there is one. -/
def fraction : List Char → Reading ((Option (List Char)) × List Char)
  | '.' :: cs => do
    let (ds, rest) ← digits cs
    .ok (some ds, rest)
  | cs => .ok (none, cs)

/-- Reads an exponent, if there is one. -/
def exponent : List Char → Reading ((Option Int) × List Char)
  | e :: cs =>
    if e = 'e' ∨ e = 'E' then do
      let (negative, ds) :=
        match cs with
        | '-' :: r => (true, r)
        | '+' :: r => (false, r)
        | r => (false, r)
      let (ds, rest) ← digits ds
      let n : Int := Decimal.digitsValue ds
      .ok (some (if negative then -n else n), rest)
    else .ok (none, e :: cs)
  | [] => .ok (none, [])

/-- The most digits of a number before its fraction; a sign does not count. -/
def wholeLimit : Nat :=
  4300

/-- Reads a number whose sign has been read. -/
def number (negative : Bool) (cs : List Char) : Reading (Json × List Char) := do
  match cs with
  | [] => .error (.endInValue, [])
  | '0' :: d :: r =>
    if d.isDigit then .error (.invalidNumber, d :: r)
    else finish ['0'] (d :: r)
  | 'I' :: r => word (.float (Json.infinity negative)) ['n', 'f', 'i', 'n', 'i', 't', 'y'] r
  | c :: r =>
    if c.isDigit then
      let (ds, rest) := Json.takeDigits (c :: r)
      if wholeLimit < ds.length then .error (.numberTooLong, cs.drop (wholeLimit + 1))
      else finish ds rest
    else .error (.invalidNumber, c :: r)
where
  /-- What follows the whole digits of a number. -/
  finish (whole rest : List Char) : Reading (Json × List Char) := do
    let (fraction, rest) ← fraction rest
    let (exponent, rest) ← exponent rest
    match fraction, exponent with
    | none, none =>
      let n : Int := Decimal.digitsValue whole
      .ok (.int (if negative then -n else n), rest)
    | f, e =>
      let f := f.getD []
      .ok (.float (Decimal.floatOf negative (Decimal.digitsValue (whole ++ f))
        (e.getD 0 - f.length)), rest)

/-- Reads a value that is neither a string nor a container. -/
def atom (cs : List Char) : Reading (Json × List Char) :=
  match cs with
  | 't' :: r => word (.bool true) ['r', 'u', 'e'] r
  | 'f' :: r => word (.bool false) ['a', 'l', 's', 'e'] r
  | 'n' :: r => word .null ['u', 'l', 'l'] r
  | 'N' :: r => word (.float Json.nan) ['a', 'N'] r
  | '-' :: r => number true r
  | c :: r => if c.isDigit || c = 'I' then number false (c :: r) else .error (.expectedValue, cs)
  | [] => .error (.endInValue, [])

mutual

/-- Reads one value. -/
def value : (fuel depth : Nat) → List Char → Reading (Json × List Char)
  | 0, _, cs => .error (.endInValue, cs)
  | fuel + 1, depth, cs =>
    match skip cs with
    | '"' :: r => do
      let (s, rest) ← string (r.length + 1) r
      .ok (.text (String.ofList s), rest)
    | '[' :: r =>
      match depth, skip r with
      | _, [] => .error (.endInList, [])
      | _, ']' :: rest => .ok (.array [], rest)
      | 0, rest => .error (.tooDeep, rest)
      | depth + 1, rest => do
        let (vs, rest) ← items fuel depth rest
        .ok (.array vs, rest)
    | '\x7b' :: r =>
      match skip r with
      | [] => .error (.endInObject, [])
      | '\x7d' :: rest => .ok (.object [], rest)
      | rest => do
        let (ms, rest) ← members fuel depth rest
        .ok (.object (Json.mergeMembers ms), rest)
    | r => atom r

/-- Reads the items of a list; there is at least one. -/
def items : (fuel depth : Nat) → List Char → Reading (List Json × List Char)
  | 0, _, cs => .error (.endInList, cs)
  | fuel + 1, depth, cs => do
    let (v, rest) ← value fuel depth cs
    match skip rest with
    | [] => .error (.endInList, [])
    | ']' :: rest => .ok ([v], rest)
    | ',' :: rest =>
      match skip rest with
      | [] => .error (.endInValue, [])
      | ']' :: r => .error (.trailingComma, ']' :: r)
      | rest =>
        let (vs, rest) ← items fuel depth rest
        .ok (v :: vs, rest)
    | r => .error (.expectedListComma, r)

/-- Reads the value of a member, within an object that is one of `depth` nested containers. -/
def memberValue : (fuel depth : Nat) → List Char → Reading (Json × List Char)
  | 0, _, cs => .error (.endInValue, cs)
  | fuel + 1, depth, cs =>
    match depth, skip cs with
    | _, [] => .error (.endInValue, [])
    | 0, rest => .error (.tooDeep, rest)
    | depth + 1, rest => value fuel depth rest

/-- Reads the members of an object; there is at least one. The object is one of `depth` nested
containers. -/
def members : (fuel depth : Nat) → List Char → Reading ((List (String × Json)) × List Char)
  | 0, _, cs => .error (.endInObject, cs)
  | fuel + 1, depth, '"' :: cs => do
    let (name, rest) ← string (cs.length + 1) cs
    match skip rest with
    | [] => .error (.endInObject, [])
    | ':' :: rest =>
      let (v, rest) ← memberValue fuel depth rest
      let m := (String.ofList name, v)
      match skip rest with
      | [] => .error (.endInObject, [])
      | '\x7d' :: rest => .ok ([m], rest)
      | ',' :: rest =>
        match skip rest with
        | [] => .error (.endInValue, [])
        | '\x7d' :: r => .error (.trailingComma, '\x7d' :: r)
        | rest =>
          let (ms, rest) ← members fuel depth rest
          .ok (m :: ms, rest)
      | r => .error (.expectedObjectComma, r)
    | r => .error (.expectedColon, r)
  | _ + 1, _, cs => .error (.expectedKey, cs)

end

/-- Line and column of the character that follows some others; a line end belongs to the line
that it opens. -/
def position (before rest : List Char) : Nat × Nat :=
  match rest with
  | '\n' :: _ => (before.count '\n' + 2, 0)
  | [] => (before.count '\n' + 1, byteCount (before.reverse.takeWhile (· ≠ '\n')))
  | _ => (before.count '\n' + 1, byteCount (before.reverse.takeWhile (· ≠ '\n')) + 1)

/-- The reason why a text is not JSON. -/
def reason (cs : List Char) (r : Refusal) : String :=
  let (line, column) := position (cs.take (cs.length - r.2.length)) r.2
  r.1.words ++ " at line " ++ toString line ++ " column " ++ toString column

/-- Reads a whole text. -/
def read (text : String) : Except String Json :=
  let cs := text.toList
  match value (3 * cs.length + 3) nestingLimit cs with
  | .error r => .error (reason cs r)
  | .ok (v, rest) =>
    match skip rest with
    | [] => .ok v
    | rest => .error (reason cs (.trailingCharacters, rest))

end StrictJson
end Validation
end SqlDialects
