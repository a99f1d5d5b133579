import SqlDialects.Text.Blank
import SqlDialects.Text.Width

/-!
# Lines of a console

Text in lines of at most a number of columns.

**Algorithm.** Words go onto a line as long as they fit; the blanks after a word belong to it but
need not fit. A word that is longer than a line is folded, or stands on a line of its own and is
cut there.

**Results.**
* `Wrap.lines` gives the lines of a text. Folding loses no character but blanks at line ends.
-/

namespace SqlDialects
namespace Console

/-- What becomes of a word that is longer than a line. -/
inductive Overflow where
  | fold
  | ellipsis
deriving DecidableEq, Repr

/-- Where text stands in its columns. -/
inductive Justify where
  | unpadded
  | left
  | center
  | right
deriving DecidableEq, Repr

namespace Wrap

/-- A line split at its line feeds. -/
def splitLines : List Char → List (List Char)
  | [] => [[]]
  | c :: cs =>
    if c = '\n' then [] :: splitLines cs
    else
      match splitLines cs with
      | [] => [[c]]
      | l :: ls => (c :: l) :: ls

/-- A line with its tabs replaced by spaces up to the next multiple of eight columns; `part` holds
the characters since the last tab, last first. -/
def expandTabs (column : Nat) (part : List Char) : List Char → List Char
  | [] => part.reverse
  | c :: cs =>
    if c = '\t' then
      let column := column + Text.width part.reverse
      let size := 8 - column % 8
      part.reverse ++ List.replicate size ' ' ++ expandTabs (column + size) [] cs
    else expandTabs column (c :: part) cs

/-- The words of a line, each with the blanks after it, the first also with those before it;
every step uses up a character. -/
def words : (fuel : Nat) → List Char → List (List Char)
  | 0, _ => []
  | fuel + 1, cs =>
    let before := cs.takeWhile Text.isSpace
    let rest := cs.dropWhile Text.isSpace
    let word := rest.takeWhile fun c => !Text.isSpace c
    let after := rest.dropWhile fun c => !Text.isSpace c
    if word.isEmpty then []
    else (before ++ word ++ after.takeWhile Text.isSpace)
      :: words fuel (after.dropWhile Text.isSpace)

/-- Pieces of text put together to lines of at most `width` columns; `used` columns of the first
line are taken. -/
def chop (width used : Nat) : List Text.Cluster → List (List Char)
  | [] => [[]]
  | c :: cs =>
    let opening (ls : List (List Char)) : List (List Char) :=
      match ls with
      | [] => [c.chars]
      | l :: ls => (c.chars ++ l) :: ls
    if width < used + c.width then [] :: opening (chop width c.width cs)
    else opening (chop width (used + c.width) cs)

/-- The lines of words. `line` holds the words of the current line, `column` its width. -/
def fill (width : Nat) (overflow : Overflow) :
    (line : List Char) → (column : Nat) → List (List Char) → List (List Char)
  | line, _, [] => [line]
  | line, column, w :: ws =>
    let size := Text.width (Text.trimEnd Text.isSpace w)
    if column + size ≤ width then
      fill width overflow (line ++ w) (column + Text.width w) ws
    else if width < size then
      match overflow with
      | .ellipsis =>
        if line.isEmpty then fill width overflow w (Text.width w) ws
        else line :: fill width overflow w (Text.width w) ws
      | .fold =>
        let pieces := chop width 0 (Text.clusters w)
        let pieces := if line.isEmpty then pieces.dropWhile List.isEmpty else pieces
        let last := pieces.getLastD []
        let full := pieces.dropLast
        (if line.isEmpty then [] else [line]) ++ full
          ++ fill width overflow last (Text.width last) ws
    else if line.isEmpty then fill width overflow (line ++ w) (column + Text.width w) ws
    else line :: fill width overflow w (Text.width w) ws

/-- A line whose blanks at the end are left out as far as it is too long. -/
def cropBlanks (width : Nat) (cs : List Char) : List Char :=
  let blanks := (cs.reverse.takeWhile Text.isSpace).length
  cs.take (cs.length - min blanks (cs.length - width))

/-- The first pieces of a line that fit, filled up with spaces. -/
def cut : (width : Nat) → List Text.Cluster → List Char
  | width, [] => List.replicate width ' '
  | width, c :: cs =>
    if c.width ≤ width ∧ 0 < width then c.chars ++ cut (width - c.width) cs
    else List.replicate width ' '

/-- A line cut or filled up to a width. -/
def fit (width : Nat) (cs : List Char) : List Char :=
  let w := Text.width cs
  if w ≤ width then cs ++ List.replicate (width - w) ' ' else cut width (Text.clusters cs)

/-- A line cut to a width; an ellipsis stands for what is cut off. -/
def truncate (width : Nat) (overflow : Overflow) (cs : List Char) : List Char :=
  if Text.width cs ≤ width then cs
  else
    match overflow with
    | .fold => fit width cs
    | .ellipsis => fit (width - 1) cs ++ ['…']

/-- A line in its place. -/
def justify (j : Justify) (width : Nat) (overflow : Overflow) (cs : List Char) : List Char :=
  let spaces (n : Nat) : List Char := List.replicate n ' '
  match j with
  | .unpadded => cs
  | .left =>
    let cs := truncate width overflow cs
    cs ++ spaces (width - Text.width cs)
  | .center =>
    let cs := truncate width overflow (Text.trimEnd Text.isSpace cs)
    let cs := spaces ((width - Text.width cs) / 2) ++ cs
    cs ++ spaces (width - Text.width cs)
  | .right =>
    let cs := truncate width overflow (Text.trimEnd Text.isSpace cs)
    spaces (width - Text.width cs) ++ cs

/-- The lines of one line of text. -/
def lineLines (width : Nat) (overflow : Overflow) (j : Justify) (cs : List Char) :
    List (List Char) :=
  let cs := if cs.contains '\t' then expandTabs 0 [] cs else cs
  let ws := words (cs.length + 1) cs
  let ls := if ws.isEmpty then [cs] else fill width overflow [] 0 ws
  ls.map fun l => truncate width overflow (justify j width overflow (cropBlanks width l))

/-- The lines of a text. -/
def lines (width : Nat) (overflow : Overflow) (j : Justify) (cs : List Char) : List (List Char) :=
  (splitLines cs).flatMap (lineLines width overflow j)

/-- Whether a character separates the lines of a text that is measured. -/
def isSeparator (c : Char) : Bool :=
  let n := c.toNat
  (10 ≤ n && n ≤ 13) || (28 ≤ n && n ≤ 30) || n = 133 || n = 8232 || n = 8233

/-- The width of the longest line of a text; `line` holds the characters since the last separator,
last first. -/
def longestFrom (line : List Char) : List Char → Nat
  | [] => Text.width line.reverse
  | c :: cs =>
    if isSeparator c then max (Text.width line.reverse) (longestFrom [] cs)
    else longestFrom (c :: line) cs

/-- The width of the longest line of a text. Other characters than line feeds separate lines here
too, though they do not when the text is laid out. -/
def longestLine (cs : List Char) : Nat :=
  longestFrom [] cs

end Wrap
end Console
end SqlDialects
