import SqlDialects.Sql.Features
import SqlDialects.Sql.Token
import SqlDialects.Text.Blank

/-!
# Splitting SQL into tokens

**Input.** A text, and the features of its dialect: quotes, escapes, comments and additional words.

**Algorithm.** One step reads what starts at the first character that is left: a blank, a number, a
quoted name or text, a comment, a symbol, or a word. A loop over that step reads the whole text.

**Rules.**
* The column of a token is that of its last character.
* A comment belongs to the token before it if it starts on the line where that token ends, and to
  the token after it otherwise; comments before a semicolon belong to what stands before it.

**Results.**
* `Lexer.tokens` gives the tokens, or the offset at which reading stopped.
* `Lexer.excerpt` is the part of a text around such an offset, for messages.
-/

namespace SqlDialects
namespace Sql
namespace Lexer

/-- Where reading stands, and what has been read. -/
structure Scan where
  rest : List Char
  offset : Nat
  line : Nat
  column : Nat
  /-- The last character that was read. -/
  last : Option Char
  /-- The tokens so far, the latest first. -/
  tokens : List Token
  /-- Comments that belong to no token yet. -/
  comments : List String
  /-- The line on which the latest token ends. -/
  tokenLine : Option Nat

/-- A scan at the start of a text. -/
def Scan.start (cs : List Char) : Scan :=
  ⟨cs, 0, 1, 0, none, [], [], none⟩

/-- Reads a character. A line ends after its last character has been read, and a carriage return
and a line feed end one line together. -/
def Scan.step (s : Scan) : Scan :=
  match s.rest with
  | [] => s
  | c :: cs =>
    let s' := { s with rest := cs, offset := s.offset + 1, last := some c }
    if s.last = some '\n' || (s.last = some '\r' && c != '\n') then
      { s' with line := s.line + 1, column := 1 }
    else if s.last = some '\r' then s'
    else { s' with column := s.column + 1 }

/-- Reads some characters. -/
def Scan.steps : Nat → Scan → Scan
  | 0, s => s
  | n + 1, s => steps n s.step

/-- Reads some characters as one stretch on the current line. -/
def Scan.leap (n : Nat) (s : Scan) : Scan :=
  let read := s.rest.take n
  { s with
    rest := s.rest.drop n
    offset := s.offset + n
    column := s.column + n
    last := read.getLast? <|> s.last }

/-- Gives comments to the latest token. -/
def attach (cs : List String) : List Token → List Token
  | [] => []
  | t :: ts => { t with comments := t.comments ++ cs } :: ts

/-- Adds a token that starts at an offset and ends where reading stands. -/
def Scan.emit (start : Nat) (kind : TokenKind) (text : String) (s : Scan) : Scan :=
  let token (cs : List String) : Token :=
    ⟨kind, text, ⟨s.line, s.column, start, s.offset - 1⟩, cs⟩
  let s' := { s with comments := [], tokenLine := some s.line }
  if kind == .SEMICOLON && !s.tokens.isEmpty then
    { s' with tokens := token [] :: attach s.comments s.tokens }
  else { s' with tokens := token s.comments :: s.tokens }

/-- Adds a comment that starts on a line. -/
def Scan.comment (startLine : Nat) (text : String) (s : Scan) : Scan :=
  let cs := s.comments ++ [text]
  if s.tokenLine = some startLine then
    { s with tokens := attach cs s.tokens, comments := [], tokenLine := some s.line }
  else { s with comments := cs }

/-- Whether a character is a digit. -/
def isDigit (c : Char) : Bool :=
  '0' ≤ c && c ≤ '9'

/-- Whether a character can be the first one of a name: a letter of any script, or an underscore. -/
def startsName (c : Char) : Bool :=
  c.isAlpha || c = '_' || (c.toNat ≥ 128 && !Text.isSpace c)

/-- Whether a list starts with a digit. -/
def startsWithDigit : List Char → Bool
  | c :: _ => isDigit c
  | [] => false

/-- How many characters continue a number, given whether underscores may set digits apart, whether
it has a point, and how much of an exponent has been read: nothing, the letter, or the letter and a
sign. -/
def numberLength (spaced point : Bool) (exponent : Nat) : List Char → Nat
  | [] => 0
  | c :: cs =>
    if isDigit c || (spaced && c = '_') then numberLength spaced point exponent cs + 1
    else if c = '.' && !point then numberLength spaced true exponent cs + 1
    else if (c = '-' || c = '+') && exponent = 1 then
      if startsWithDigit cs then numberLength spaced point 2 cs + 1 else 0
    else if (c = 'e' || c = 'E') && exponent = 0 then numberLength spaced point 1 cs + 1
    else 0

/-- How what stands between quotes is read. -/
structure QuoteRule where
  close : Char
  escapes : List Char
  quotes : List Char
  /-- Whether a backslash and a letter stand for a control character. -/
  sequences : Bool

/-- The character that a backslash and a letter stand for. -/
def sequence? : Char → Option Char
  | 'a' => some '\x07'
  | 'b' => some '\x08'
  | 'f' => some '\x0c'
  | 'n' => some '\n'
  | 'r' => some '\r'
  | 't' => some '\t'
  | 'v' => some '\x0b'
  | '\\' => some '\\'
  | _ => none

/-- Whether a character escapes the one after it. -/
def QuoteRule.escaped (q : QuoteRule) (c d : Char) : Bool :=
  q.escapes.contains c && (d = q.close || q.escapes.contains d)
    && (!q.quotes.contains c || c = d)

/-- What stands before the closing quote, and the number of characters up to and with it; or how
far reading got without one. -/
def quotedText (q : QuoteRule) : List Char → Except Nat (List Char × Nat)
  | [] => .error 1
  | [c] => if c = q.close then .ok ([], 1) else .error 1
  | c :: d :: ds =>
    let after (k : Nat) (front : List Char) (r : Except Nat (List Char × Nat)) :=
      match r with
      | .ok (text, n) => .ok (front ++ text, n + k)
      | .error n => .error (n + k)
    match if q.sequences && c = '\\' then sequence? d else none with
    | some x => after 2 [x] (quotedText q ds)
    | none =>
      if q.escaped c d then
        if ds.isEmpty then .error 1
        else after 2 (if d = q.close then [d] else [c, d]) (quotedText q ds)
      else if c = q.close then .ok ([], 1)
      else after 1 [c] (quotedText q (d :: ds))

/-- Whether a text starts with some characters. -/
def startsWith (front : String) (cs : List Char) : Bool :=
  front.toList.isPrefixOf cs

/-- How many characters stand before the end of a comment, given how many characters to pass over
and how many comments are open. -/
def commentLength (nested : Bool) : (pass depth : Nat) → List Char → Option Nat
  | _, _, [] => none
  | pass + 1, depth, _ :: cs => (commentLength nested pass depth cs).map (· + 1)
  | 0, depth, c :: cs =>
    let left := if c = '*' && startsWith "/" cs then depth - 1 else depth
    if left = 0 then some 0
    else if nested && startsWith "/*" cs then
      (commentLength nested 2 (left + 1) cs).map (· + 1)
    else (commentLength nested 0 left cs).map (· + 1)

/-- How many characters a phrase takes at the start of a text, where a blank of the phrase stands
for any blanks. -/
def phraseLength : (phrase : List Char) → List Char → Option Nat
  | [], _ => some 0
  | _ :: _, [] => none
  | k :: ks, c :: cs =>
    if k = ' ' then
      let blanks := ((c :: cs).takeWhile Text.isSpace).length
      if blanks = 0 then none
      else (phraseLength ks ((c :: cs).drop blanks)).map (· + blanks)
    else if Text.upperChar c = [k] then (phraseLength ks cs).map (· + 1)
    else none

/-- Whether a word ends before a text. -/
def endsWord : List Char → Bool
  | [] => true
  | c :: _ => Text.isSpace c || (symbol? c).isSome

/-- The longest spelling at the start of a text among some, with its length. -/
def longest (spellings : List (String × TokenKind)) (ok : List Char → Bool) (cs : List Char) :
    Option (Nat × String × TokenKind) :=
  spellings.foldl (fun best (s, k) =>
    match phraseLength s.toList cs with
    | none => best
    | some n =>
      if ok (cs.drop n) && (best.map fun b => decide (b.1 < n)).getD true then some (n, s, k)
      else best) none

/-- Reads a name or a text in quotes. -/
def readQuoted (f : Features) (kind : TokenKind) (close : Char) (s : Scan) : Except Nat Scan :=
  let escapes := if kind == .STRING then f.escapes else ['"', close] ++ f.nameEscape.toList
  match quotedText ⟨close, escapes, f.textQuotes, f.hasBackslash⟩ (s.rest.drop 1) with
  | .error n => .error (s.offset + 1 + n)
  | .ok (text, n) => .ok ((s.steps (n + 1)).emit s.offset kind (String.ofList text))

/-- Reads a comment that goes to the end of the line. -/
def readLineComment (start : String) (s : Scan) : Scan :=
  let text := s.rest.takeWhile fun c => c != '\n' && c != '\r'
  let first := s.step
  (s.steps text.length).comment first.line (String.ofList (text.drop start.length))

/-- The words that hints may follow. -/
def hinted : List TokenKind :=
  [.SELECT, .INSERT, .UPDATE, .DELETE]

/-- What opens a comment that may hold hints. -/
def hintMark : String :=
  "/*+"

/-- Reads a comment between marks. A comment with hints is a token after a word that takes them. -/
def readBlockComment (f : Features) (s : Scan) : Except Nat Scan :=
  let hints := startsWith hintMark s.rest && !f.has .plainHints
  let opening := if hints then 3 else 2
  let inside := s.rest.drop opening
  match commentLength (f.nestedComments && !hints) 0 1 inside with
  | none => .error (s.offset + s.rest.length + 1)
  | some n =>
    let first := s.step
    let done := s.steps (n + opening + 2)
    let text := String.ofList (inside.take n)
    let taken := hints && (s.tokens.head?.any fun t => hinted.contains t.kind)
    .ok (if taken then
        ({ done with comments := done.comments ++ [text] }).emit s.offset .HINT
          (String.ofList (s.rest.take (n + opening + 2)))
      else done.comment first.line text)

/-- Whether a character stands in a word: it is neither a blank nor a symbol. -/
def inWord (c : Char) : Bool :=
  !Text.isSpace c && (symbol? c).isNone

/-- Whether a character is a hexadecimal digit. -/
def isHexDigit (c : Char) : Bool :=
  isDigit c || ('a' ≤ c && c ≤ 'f') || ('A' ≤ c && c ≤ 'F')

/-- Whether a hexadecimal number may start with a zero and a letter at the start of a text. -/
def startsHex (f : Features) (cs : List Char) : Bool :=
  !f.hexMarks.isEmpty && (startsWith "0x" cs || startsWith "0X" cs)

/-- Reads a hexadecimal number after a zero and a letter; with other letters, it is a name. -/
def readHex (s : Scan) : Scan :=
  let word := s.rest.takeWhile inWord
  let digits := word.drop 2
  let done := s.steps word.length
  if !digits.isEmpty && digits.all isHexDigit then
    done.emit s.offset .HEX_STRING (String.ofList digits)
  else done.emit s.offset .IDENTIFIER (String.ofList word)

/-- Reads a hexadecimal number between marks. -/
def readMarkedHex (opening close : String) (s : Scan) : Except Nat Scan :=
  let inside := s.rest.drop opening.length
  let digits := inside.takeWhile fun c => !close.toList.contains c
  let size := opening.length + digits.length
  if digits.length = inside.length || !digits.all isHexDigit then .error (s.offset + size)
  else .ok ((s.steps (size + 1)).emit s.offset .HEX_STRING (String.ofList digits))

/-- Reads a number, perhaps with letters after it that name its type or make it a name. -/
def readNumber (f : Features) (s : Scan) : Scan :=
  let spaced := f.has .spacedDigits
  let n := numberLength spaced false 0 (s.rest.drop 1) + 1
  let digits := s.rest.take n
  let number := String.ofList (if spaced then digits.filter fun c => c != '_' else digits)
  let more := (s.rest.drop n).takeWhile inWord
  let named := (more.head?.map startsName).getD false
  let whole := s.steps (n + more.length)
  match if named then f.numberTypes.lookup (Text.upper (String.ofList more)) else none with
  | some k =>
    ((whole.emit s.offset .NUMBER number).emit s.offset .DCOLON "::").emit s.offset k
      (String.ofList more)
  | none =>
    if named && f.has .digitNames then
      whole.emit s.offset .VAR (String.ofList (s.rest.take (n + more.length)))
    else (s.steps n).emit s.offset .NUMBER number

/-- Reads a word: what stands before the next blank or symbol. -/
def readWord (f : Features) (s : Scan) : Scan :=
  let more := (s.rest.drop 1).takeWhile inWord
  let text := String.ofList (s.rest.take (more.length + 1))
  (s.steps (more.length + 1)).emit s.offset (wordKind f.moreWords text) text

/-- Reads a symbol, a phrase or a word. -/
def readPlain (f : Features) (c : Char) (s : Scan) : Scan :=
  match longest (compounds ++ f.moreSymbols) (fun _ => true) s.rest with
  | some (n, text, k) => (s.step.leap (n - 1)).emit s.offset k text
  | none =>
    match longest (phrases ++ f.morePhrases) endsWord s.rest with
    | some (n, text, k) => (s.step.leap (n - 1)).emit s.offset k text
    | none =>
      match symbol? c with
      | some k => s.step.emit s.offset k c.toString
      | none => readWord f s

/-- Reads what starts at a character, which is the first one that is left. -/
def readFrom (f : Features) (c : Char) (s : Scan) : Except Nat Scan :=
  if Text.isSpace c then .ok s.step
  else if isDigit c then .ok (if startsHex f s.rest then readHex s else readNumber f s)
  else
    match f.nameQuotes.lookup c with
    | some close => readQuoted f .IDENTIFIER close s
    | none =>
      if f.textQuotes.contains c then readQuoted f .STRING c s
      else if startsWith "/*" s.rest then readBlockComment f s
      else
        match f.hexMarks.find? fun m => !m.2.isEmpty && startsWith m.1 s.rest with
        | some (opening, close) => readMarkedHex opening close s
        | none =>
          match f.lineComments.find? fun m => startsWith m s.rest with
          | some m => .ok (readLineComment m s)
          | none => .ok (readPlain f c s)

/-- Reads on until nothing is left; every step reads a character at least. -/
def readAll (f : Features) : (fuel : Nat) → Scan → Except Nat Scan
  | 0, s => .ok s
  | fuel + 1, s =>
    match s.rest with
    | [] => .ok s
    | c :: _ =>
      match readFrom f c s with
      | .error n => .error n
      | .ok s' => readAll f fuel s'

/-- The tokens of a text, or the offset at which reading stopped. -/
def tokens (f : Features) (sql : String) : Except Nat (List Token) :=
  let cs := sql.toList
  match readAll f cs.length (.start cs) with
  | .error n => .error n
  | .ok s => .ok (attach s.comments s.tokens).reverse

/-- How much of a text is shown on either side of an offset. -/
def excerptWidth : Nat :=
  50

/-- The part of a text around an offset; the last character of the text is never shown. -/
def excerpt (sql : String) (offset : Nat) : String :=
  let cs := sql.toList
  let first := offset - excerptWidth
  let stop := min (offset + excerptWidth) (cs.length - 1)
  String.ofList ((cs.take stop).drop first)

end Lexer
end Sql
end SqlDialects
