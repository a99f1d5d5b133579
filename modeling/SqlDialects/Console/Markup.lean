import SqlDialects.Console.Emoji
import SqlDialects.Console.Handler
import SqlDialects.Console.Style

/-!
# Console markup

Text in which tags between square brackets set styles. On a terminal without styles only the
matching of the tags matters.

**Rules.**
* A tag begins with a small letter, a number sign, an at sign or a slash after its bracket, and has
  no bracket inside. Any other bracket is text.
* Of backslashes before a tag every two stand for one; an odd one makes the tag text.
* A closing tag closes the last open tag of its style, or just the last one if it has no style.
* What a tag that begins with an at sign carries is looked at when it is closed.
* A name between colons is replaced by a picture, if there is one of the name.

**Results.**
* `Markup.escape` turns text into markup of that text.
* `Markup.plain` gives the text of markup, or says which closing tag matches nothing or what is
  wrong with the tag that it closes.
-/

namespace SqlDialects
namespace Console
namespace Markup

/-- Whether a tag may begin with a character. -/
def isTagStart (c : Char) : Bool :=
  ('a' ≤ c && c ≤ 'z') || c = '#' || c = '/' || c = '@'

/-- The text of the tag at the front, between the brackets, and what follows it. -/
def tagAt? : List Char → Option (List Char × List Char)
  | '[' :: c :: cs =>
    if isTagStart c then
      match cs.dropWhile fun d => d ≠ '[' && d ≠ ']' with
      | ']' :: rest => some (c :: cs.takeWhile (fun d => d ≠ '[' && d ≠ ']'), rest)
      | _ => none
    else none
  | _ => none

/-- A tag with the backslashes before it. -/
structure Match where
  backslashes : Nat
  tag : List Char
  rest : List Char

/-- The tag at the front, after any backslashes. -/
def match? (cs : List Char) : Option Match :=
  (tagAt? (cs.dropWhile (· = '\\'))).map fun (tag, rest) =>
    ⟨(cs.takeWhile (· = '\\')).length, tag, rest⟩

/-- A tag with its brackets. -/
def bracketed (tag : List Char) : List Char :=
  '[' :: tag ++ [']']

/-- Escapes the tags of a text; every step uses up a character. -/
def escapeTags : (fuel : Nat) → List Char → List Char
  | 0, cs => cs
  | _ + 1, [] => []
  | fuel + 1, c :: cs =>
    match match? (c :: cs) with
    | some m =>
      List.replicate (2 * m.backslashes + 1) '\\' ++ bracketed m.tag ++ escapeTags fuel m.rest
    | none => c :: escapeTags fuel cs

/-- Markup of a text. A single backslash at the end is doubled. -/
def escape (cs : List Char) : List Char :=
  let escaped := escapeTags (cs.length + 1) cs
  match escaped.reverse with
  | '\\' :: '\\' :: _ => escaped
  | '\\' :: _ => escaped ++ ['\\']
  | _ => escaped

/-- A piece of markup. -/
inductive Piece where
  | text (cs : List Char)
  | tag (place : Nat) (content : List Char)

/-- The pieces of markup. `pending` is the text before the current place, last character first. -/
def piecesFrom : (fuel place : Nat) → (pending : List Char) → List Char → List Piece
  | 0, _, pending, cs => [.text (pending.reverse ++ cs)]
  | _ + 1, _, pending, [] => if pending.isEmpty then [] else [.text pending.reverse]
  | fuel + 1, place, pending, c :: cs =>
    match match? (c :: cs) with
    | none => piecesFrom fuel (place + 1) (c :: pending) cs
    | some m =>
      let before : List Piece := if pending.isEmpty then [] else [.text pending.reverse]
      let slashes : List Piece :=
        if m.backslashes < 2 then [] else [.text (List.replicate (m.backslashes / 2) '\\')]
      let next := place + m.backslashes + m.tag.length + 2
      if m.backslashes % 2 = 1 then
        before ++ slashes ++ .text (bracketed m.tag) :: piecesFrom fuel next [] m.rest
      else
        before ++ slashes
          ++ .tag (place + m.backslashes) m.tag :: piecesFrom fuel next [] m.rest

/-- The pieces of markup. -/
def pieces (cs : List Char) : List Piece :=
  piecesFrom (cs.length + 1) 0 [] cs

/-- Text in which a backslash before a bracket is left out. -/
def dropEscapes : List Char → List Char
  | '\\' :: '[' :: cs => '[' :: dropEscapes cs
  | c :: cs => c :: dropEscapes cs
  | [] => []

/-- What follows the name of a picture: the name ends at the first colon. -/
def emojiName? : List Char → Option (List Char × List Char)
  | [] => none
  | ':' :: cs => some ([], cs)
  | c :: cs =>
    if Text.isSpace c then none else (emojiName? cs).map fun (n, rest) => (c :: n, rest)

/-- Text with names between colons replaced; every step uses up a character. -/
def replaceEmoji : (fuel : Nat) → List Char → List Char
  | 0, cs => cs
  | _ + 1, [] => []
  | fuel + 1, ':' :: cs =>
    match emojiName? cs with
    | none => ':' :: replaceEmoji fuel cs
    | some (name, rest) =>
      match emojiWithForm? name with
      | some picture => picture ++ replaceEmoji fuel rest
      | none => ':' :: name ++ ':' :: replaceEmoji fuel rest
  | fuel + 1, c :: cs => c :: replaceEmoji fuel cs

/-- The control characters that a console leaves out. -/
def isDropped (c : Char) : Bool :=
  let n := c.toNat
  n = 7 || n = 8 || n = 11 || n = 12 || n = 13

/-- The text of a text piece. -/
def pieceText (cs : List Char) : List Char :=
  let cs := dropEscapes cs
  (replaceEmoji (cs.length + 1) cs).filter fun c => !isDropped c

/-- The name of a tag, without what follows an equals sign. -/
def tagName (content : List Char) : List Char :=
  content.takeWhile (· ≠ '=')

/-- What follows the equals sign of a tag. -/
def tagContent (content : List Char) : List Char :=
  (content.dropWhile (· ≠ '=')).drop 1

/-- An open tag: its style in normal form, and what follows its equals sign. -/
structure OpenTag where
  style : String
  content : List Char

/-- Takes the last open tag of a style away; the last one stands first. -/
def close? (style : String) : List OpenTag → Option (OpenTag × List OpenTag)
  | [] => none
  | t :: ts =>
    if t.style = style then some (t, ts) else (close? style ts).map fun (c, rest) => (c, t :: rest)

/-- The open tags after one has been closed, or what is wrong with that one. -/
def closed (tag : OpenTag) (rest : List OpenTag) : Except String (List OpenTag) :=
  if tag.style.startsWith "@" then
    match Handler.fault? tag.content with
    | some e => .error e
    | none => .ok rest
  else .ok rest

/-- The open tags after a tag, or the report of a closing tag that matches none or closes a faulty
one. -/
def applyTag (stack : List OpenTag) (place : Nat) (content : List Char) :
    Except String (List OpenTag) :=
  match tagName content with
  | '/' :: name =>
    match Text.trim Text.isSpace name with
    | [] =>
      match stack with
      | t :: ts => closed t ts
      | [] =>
        .error ("closing tag '[/]' at position " ++ toString place ++ " has nothing to close")
    | name =>
      match close? (Style.normal name) stack with
      | some (t, ts) => closed t ts
      | none =>
        .error ("closing tag '" ++ String.ofList (bracketed content) ++ "' at position "
          ++ toString place ++ " doesn't match any open tag")
  | name => .ok (⟨Style.normal name, tagContent content⟩ :: stack)

/-- The text of pieces, with some tags open. -/
def textOf : (stack : List OpenTag) → List Piece → Except String (List Char)
  | _, [] => .ok []
  | stack, .text cs :: ps => (textOf stack ps).map (pieceText cs ++ ·)
  | stack, .tag place content :: ps =>
    match applyTag stack place content with
    | .error e => .error e
    | .ok stack => textOf stack ps

/-- The text of markup, or the report of the first closing tag that is at fault. -/
def plain (markup : List Char) : Except String (List Char) :=
  textOf [] (pieces markup)

end Markup
end Console
end SqlDialects
