import SqlDialects.Text.Blank
import SqlDialects.Text.Quoted

/-!
# Handlers of tags

What follows the equals sign of a tag that begins with an at sign: the name of a handler, perhaps
with values between parentheses, or values alone.

**Grammar.** A value is a number, strings next to each other, a name, values between parentheses
or braces, or values joined by operators. Commas separate values.

**Rules.**
* A dotted name with nothing or something between parentheses behind it is a handler; its values are
  what the parentheses hold. Anything else is read as values.
* Of the faults of a text those of single tokens and of unmatched brackets come first, then the
  first token that cannot stand where it does.
* Only constants are values; names and operations are read and then refused.

**Results.**
* `Handler.fault?` says what is wrong with a text, if anything is.
-/

namespace SqlDialects
namespace Console
namespace Handler

/-- A token of values. -/
inductive Token where
  | number
  | text
  | word (cs : List Char)
  | sign (cs : List Char)
deriving DecidableEq, Repr

/-- Whether a word may begin with a character. -/
def isWordStart (c : Char) : Bool :=
  c.isAlpha || c = '_' || 128 ≤ c.toNat

/-- Whether a word may go on with a character. -/
def isWordPart (c : Char) : Bool :=
  isWordStart c || c.isDigit

/-- The marks of two characters. -/
def doubleSigns : List (List Char) :=
  [['*', '*'], ['/', '/'], ['<', '<'], ['>', '>'], ['<', '='], ['>', '='], ['=', '='], ['!', '='],
    ['-', '>'], [':', '=']]

/-- The letters that may stand before a string, in small letters. -/
def stringMarks : List (List Char) :=
  [['r'], ['b'], ['u'], ['f'], ['b', 'r'], ['r', 'b'], ['f', 'r'], ['r', 'f']]

/-- The number of characters of a string after its opening mark, the closing mark included. -/
def stringLength? (mark : Char) : List Char → Option Nat
  | [] => none
  | '\n' :: _ => none
  | '\\' :: _ :: cs => (stringLength? mark cs).map (· + 2)
  | c :: cs => if c = mark then some 1 else (stringLength? mark cs).map (· + 1)

/-- The report of a string without an end. -/
def unterminated : String :=
  "unterminated string literal (detected at line 1)"

/-- Digits, single underscores among them, and what follows. -/
def spanDigits : (afterDigit : Bool) → List Char → List Char × List Char
  | _, [] => ([], [])
  | after, c :: cs =>
    if c.isDigit then (spanDigits true cs).map (c :: ·) id
    else if c = '_' && after && (cs.head?.map Char.isDigit).getD false then
      (spanDigits false cs).map (c :: ·) id
    else ([], c :: cs)

/-- The exponent of a number, if there is one, and what follows. -/
def dropExponent : List Char → List Char
  | e :: s :: d :: cs =>
    if (e = 'e' || e = 'E') && (s = '+' || s = '-') && d.isDigit then (spanDigits true cs).2
    else if (e = 'e' || e = 'E') && s.isDigit then (spanDigits true (d :: cs)).2
    else e :: s :: d :: cs
  | [e, d] => if (e = 'e' || e = 'E') && d.isDigit then [] else [e, d]
  | cs => cs

/-- The characters after a decimal number at the front, or what is wrong with it. -/
def afterNumber (cs : List Char) : Except String (List Char) :=
  let (whole, rest) := spanDigits false cs
  let fraction :=
    match rest with
    | '.' :: r => some (spanDigits false r).2
    | _ => none
  let ending := dropExponent (fraction.getD rest)
  let imaginary := ending.head? == some 'j' || ending.head? == some 'J'
  let rest' := if imaginary then ending.drop 1 else ending
  if (rest'.head?.map isWordPart).getD false then .error "invalid decimal literal"
  else if whole.head? == some '0' && whole.any (fun c => c ≠ '0' && c ≠ '_')
      && fraction.isNone && ending.length = rest.length && !imaginary then
    .error ("leading zeros in decimal integer literals are not permitted; "
      ++ "use an 0o prefix for octal integers")
  else .ok rest'

/-- The tokens of a text with the openings that are still to be closed, last first. -/
def tokens : (fuel : Nat) → (openings : List Char) → List Char →
    Except String (List Token × List Char)
  | 0, openings, _ => .ok ([], openings)
  | _ + 1, openings, [] => .ok ([], openings)
  | fuel + 1, openings, c :: cs =>
    if Text.isBlank c then tokens fuel openings cs
    else if c = '#' then .ok ([], openings)
    else if c = '\\' then .error "unexpected character after line continuation character"
    else if c = '\'' || c = '"' then
      match stringLength? c cs with
      | none => .error unterminated
      | some n => (tokens fuel openings (cs.drop n)).map fun (ts, o) => (.text :: ts, o)
    else if isWordStart c then
      let word := c :: cs.takeWhile isWordPart
      let rest := cs.dropWhile isWordPart
      let quotes := rest.head? == some '\'' || rest.head? == some '"'
      if quotes && stringMarks.contains (word.map Char.toLower) then tokens fuel openings rest
      else (tokens fuel openings rest).map fun (ts, o) => (.word word :: ts, o)
    else if c.isDigit || (c = '.' && (cs.head?.map Char.isDigit).getD false) then
      match afterNumber (c :: cs) with
      | .error e => .error e
      | .ok rest => (tokens fuel openings rest).map fun (ts, o) => (.number :: ts, o)
    else if c = '(' || c = '\x7b' then
      (tokens fuel (c :: openings) cs).map fun (ts, o) => (.sign [c] :: ts, o)
    else if c = ')' || c = '\x7d' then
      match openings with
      | [] => .error ("unmatched '" ++ c.toString ++ "'")
      | o :: os =>
        if (o = '(') = (c = ')') then
          (tokens fuel os cs).map fun (ts, o) => (.sign [c] :: ts, o)
        else
          .error ("closing parenthesis '" ++ c.toString
            ++ "' does not match opening parenthesis '" ++ o.toString ++ "'")
    else
      let two := c :: cs.take 1
      let size := if doubleSigns.contains two then 2 else 1
      (tokens fuel openings (cs.drop (size - 1))).map fun (ts, o) =>
        (.sign (two.take size) :: ts, o)

/-- Why values cannot be read. -/
inductive Fault where
  /-- The text ends too early. -/
  | ended
  /-- A token stands where it cannot. -/
  | unexpected
  /-- A report of its own. -/
  | report (message : String)

/-- The words that are no names. -/
def reservedWords : List String :=
  ["and", "as", "assert", "async", "await", "break", "class", "continue", "def", "del", "elif",
    "else", "except", "finally", "for", "from", "global", "if", "import", "in", "is", "lambda",
    "nonlocal", "not", "or", "pass", "raise", "return", "try", "while", "with", "yield"]

/-- The names of constants. -/
def constantWords : List String :=
  ["True", "False", "None"]

/-- The marks and words that join two values. -/
def joiners : List String :=
  ["+", "-", "*", "**", "/", "//", "%", "@", "&", "|", "^", "<<", ">>", "<", ">", "<=", ">=",
    "==", "!=", "and", "or", "in", "is"]

/-- Whether a token joins two values. -/
def joins : Token → Bool
  | .sign cs => joiners.contains (String.ofList cs)
  | .word cs => joiners.contains (String.ofList cs)
  | _ => false

/-- Whether a token is a name. -/
def isName : Token → Bool
  | .word cs => !reservedWords.contains (String.ofList cs)
  | _ => false

/-- Whether a value may begin with a token, a bracket aside. -/
def beginsValue : Token → Bool
  | .number => true
  | .text => true
  | t => isName t

/-- The fault of a token that stands behind a value inside brackets where a comma should:
`first` is the token that the value begins with. -/
def missingComma (first : Option Token) (found : Token) (rest : List Token) : Fault :=
  let barred :=
    match first with
    | some (.word cs) =>
      found = .text || ["_", "case", "match", "print", "exec"].contains (String.ofList cs)
    | _ => false
  if !beginsValue found || barred then .unexpected
  else if rest.isEmpty then .ended
  else .report "invalid syntax. Perhaps you forgot a comma?"

/-- The closing bracket of an opening one. -/
def closing (c : Char) : Token :=
  .sign [if c = '(' then ')' else '\x7d']

mutual

/-- A value, and whether it is a constant. -/
def readValue : (fuel : Nat) → List Token → Except Fault (Bool × List Token)
  | 0, _ => .error .unexpected
  | _ + 1, [] => .error .ended
  | fuel + 1, .sign [c] :: ts =>
    if c = '-' || c = '+' then
      match readValue fuel ts with
      | .error e => .error e
      | .ok (constant, rest) => .ok (constant && ts.head? == some .number, rest)
    else if c = '~' then (readValue fuel ts).map fun (_, rest) => (false, rest)
    else if c = '(' then
      match readGroup fuel ts with
      | .error e => .error e
      | .ok (constant, rest) => readTail fuel constant rest
    else if c = '\x7b' then
      match readBraces fuel none ts with
      | .error e => .error e
      | .ok (constant, rest) => readTail fuel constant rest
    else .error .unexpected
  | fuel + 1, .word cs :: ts =>
    if cs = ['n', 'o', 't'] then (readValue fuel ts).map fun (_, rest) => (false, rest)
    else if isName (.word cs) then
      readTail fuel (constantWords.contains (String.ofList cs)) ts
    else .error .unexpected
  | fuel + 1, .number :: ts => readTail fuel true ts
  | fuel + 1, .text :: ts => readTail fuel true (ts.dropWhile (· = .text))
  | _ + 1, .sign _ :: _ => .error .unexpected

/-- What follows the beginning of a value: calls, members and further operands. -/
def readTail : (fuel : Nat) → (constant : Bool) → List Token → Except Fault (Bool × List Token)
  | 0, _, _ => .error .unexpected
  | _ + 1, constant, [] => .ok (constant, [])
  | fuel + 1, constant, t :: ts =>
    if t = .sign ['('] then
      match readGroup fuel ts with
      | .error e => .error e
      | .ok (_, rest) => readTail fuel false rest
    else if t = .sign ['.'] then
      match ts with
      | [] => .error .ended
      | n :: rest => if isName n then readTail fuel false rest else .error .unexpected
    else if joins t then (readValue fuel ts).map fun (_, rest) => (false, rest)
    else .ok (constant, t :: ts)

/-- Values up to a closing parenthesis. -/
def readGroup : (fuel : Nat) → List Token → Except Fault (Bool × List Token)
  | 0, _ => .error .unexpected
  | fuel + 1, ts =>
    if ts.head? == some (closing '(') then .ok (true, ts.drop 1)
    else
      match readValue fuel ts with
      | .error e => .error e
      | .ok (_, []) => .error .ended
      | .ok (constant, t :: rest) =>
        if t = closing '(' then .ok (constant, rest)
        else if t = .sign [','] then
          (readGroup fuel rest).map fun (others, r) => (constant && others, r)
        else if t = .sign ['='] && (ts.head?.map isName).getD false then
          match readValue fuel rest with
          | .error e => .error e
          | .ok (_, []) => .error .ended
          | .ok _ =>
            .error (.report "invalid syntax. Maybe you meant '==' or ':=' instead of '='?")
        else .error (missingComma ts.head? t rest)

/-- Values, or pairs of values with a colon between, up to a closing brace; `paired` is set after
the first. -/
def readBraces : (fuel : Nat) → (paired : Option Bool) → List Token →
    Except Fault (Bool × List Token)
  | 0, _, _ => .error .unexpected
  | fuel + 1, paired, ts =>
    if ts.head? == some (closing '\x7b') then .ok (true, ts.drop 1)
    else
      match readValue fuel ts with
      | .error e => .error e
      | .ok (constant, rest) =>
        if rest.head? == some (.sign [':']) && paired != some false then
          if (rest.drop 1).head? == some (closing '\x7b')
              || (rest.drop 1).head? == some (.sign [',']) then
            .error (.report "expression expected after dictionary key and ':'")
          else
            match readValue fuel (rest.drop 1) with
            | .error e => .error e
            | .ok (held, rest') => readMore fuel (constant && held) true rest.tail.head? rest'
        else if paired == some true then
          .error (if rest.isEmpty then .ended
            else .report "':' expected after dictionary key")
        else readMore fuel constant false ts.head? rest

/-- What follows a value or a pair between braces. -/
def readMore : (fuel : Nat) → (constant paired : Bool) → (first : Option Token) → List Token →
    Except Fault (Bool × List Token)
  | 0, _, _, _, _ => .error .unexpected
  | _ + 1, _, _, _, [] => .error .ended
  | fuel + 1, constant, paired, first, t :: ts =>
    if t = closing '\x7b' then .ok (constant, ts)
    else if t = .sign [','] then
      (readBraces fuel (some paired) ts).map fun (others, r) => (constant && others, r)
    else .error (missingComma first t ts)

end

/-- Values up to the end, commas between them. -/
def readAll : (fuel : Nat) → List Token → Except Fault Bool
  | 0, _ => .error .unexpected
  | fuel + 1, ts =>
    match readValue (4 * ts.length + 4) ts with
    | .error e => .error e
    | .ok (constant, []) => .ok constant
    | .ok (constant, [.sign [',']]) => .ok constant
    | .ok (constant, .sign [','] :: rest) => (readAll fuel rest).map (constant && ·)
    | .ok _ => .error .unexpected

/-- What is wrong with values: whether the text is malformed, and the report. -/
def valueFault? (cs : List Char) : Option (Bool × String) :=
  match tokens (cs.length + 1) [] cs with
  | .error e => some (true, e)
  | .ok (ts, openings) =>
    match readAll (ts.length + 1) ts with
    | .ok true => none
    | .ok false => some (false, "malformed node or string on line 1")
    | .error (.report e) => some (true, e)
    | .error .unexpected => some (true, "invalid syntax")
    | .error .ended =>
      match openings with
      | o :: _ => some (true, "'" ++ o.toString ++ "' was never closed")
      | [] => some (true, "invalid syntax")

/-- The part of a handler that holds its values, if a text is a handler: none of its characters if
there are no parentheses. -/
def handlerValues? (cs : List Char) : Option (List Char) :=
  let rest := cs.dropWhile fun c => isWordPart c || c = '.'
  match rest with
  | [] => some []
  | '(' :: _ => if rest.getLast? == some ')' && !rest.contains '\n' then some rest else none
  | _ => none

/-- What is wrong with the text behind the equals sign of a tag, if anything is. -/
def fault? (content : List Char) : Option String :=
  let stripped := Text.trim Text.isSpace content
  let values := (handlerValues? stripped).getD stripped
  if values.isEmpty then none
  else
    match valueFault? values with
    | none => none
    | some (malformed, message) =>
      let place := if malformed then Text.quotedChars values ++ " in ".toList else []
      some ("error parsing " ++ String.ofList (place ++ Text.quotedChars content) ++ "; "
        ++ message)

end Handler
end Console
end SqlDialects
