import SqlDialects.Text.Ranges
import SqlDialects.Text.WidthTable

/-!
# Cell widths

How many columns of a terminal a text takes.

**Rules.**
* A character takes no column if it is a control character or a mark that sits on the character
  before, two if it is wide, and else one.
* A joiner takes the character after it into the picture before it. A selector of pictures makes
  some symbols as wide as pictures.

**Results.**
* `width` is the number of columns of a text.
* `clusters` divides a text into pieces that a terminal cannot divide further, each with its
  columns. Nothing is lost: the pieces together are the text.
-/

namespace SqlDialects
namespace Text

/-- The columns that a character takes. -/
def charWidth (c : Char) : Nat :=
  let n := c.toNat
  if 32 ≤ n && n < 127 then 1
  else if inRanges zeroWidthRanges c then 0
  else if inRanges wideRanges c then 2
  else 1

/-- The joiner of pictures. -/
def joiner : Char :=
  '\u200d'

/-- The selector of pictures. -/
def pictureSelector : Char :=
  '\ufe0f'

/-- Whether a character becomes wide before a selector of pictures. -/
def isWidened (c : Char) : Bool :=
  inRanges widenedRanges c

/-- The columns of a text; `last` is the character before it that a selector may widen. -/
def widthFrom (last : Option Char) : List Char → Nat
  | [] => 0
  | c :: cs =>
    if c = joiner then
      match cs with
      | [] => 0
      | _ :: cs => widthFrom last cs
    else if c = pictureSelector then
      (if last.any isWidened then 1 else 0) + widthFrom none cs
    else
      let w := charWidth c
      w + widthFrom (if w = 0 then last else some c) cs

/-- The columns that a line of characters takes. -/
def width (cs : List Char) : Nat :=
  widthFrom none cs

/-- A piece of text that stands on a terminal as one. -/
structure Cluster where
  chars : List Char
  width : Nat

/-- The piece with more characters, which add some columns. -/
def Cluster.extend (c : Cluster) (more : List Char) (columns : Nat) : Cluster :=
  ⟨c.chars ++ more, c.width + columns⟩

/-- The pieces of a text behind a piece; `last` is the character before that a selector may
widen. -/
def clustersFrom (front : Cluster) (last : Option Char) : List Char → List Cluster
  | [] => [front]
  | c :: cs =>
    if c = joiner then
      match cs with
      | [] => [front.extend [c] 0]
      | d :: cs => clustersFrom (front.extend [c, d] 0) last cs
    else if c = pictureSelector then
      if last.any isWidened then clustersFrom (front.extend [c] 1) none cs
      else clustersFrom (front.extend [c] 0) last cs
    else
      let w := charWidth c
      if w = 0 then clustersFrom (front.extend [c] 0) last cs
      else front :: clustersFrom ⟨[c], w⟩ (some c) cs

/-- The pieces of a text. -/
def clusters : List Char → List Cluster
  | [] => []
  | c :: cs =>
    let w := if c = joiner ∨ c = pictureSelector then 0 else charWidth c
    clustersFrom ⟨[c], w⟩ (if w = 0 then none else some c) cs

end Text
end SqlDialects
