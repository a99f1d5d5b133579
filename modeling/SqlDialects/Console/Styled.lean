import SqlDialects.Console.Markup

/-!
# Styled text

The text of markup with the parts of it that its tags style.

**Rules.**
* A part reaches from the place of its tag to the place where that is closed, or to the end of the
  text if it never is.  Places are counted in the text that is shown.
* Parts stand in the order in which they start; of parts with one start the last one to end comes
  first.

**Results.**
* `Markup.styled` gives text and parts, or the report that `Markup.plain` gives.
-/

namespace SqlDialects
namespace Console
namespace Markup

/-- A part of a text and the tag that styles it. -/
structure Span where
  start : Nat
  stop : Nat
  tag : OpenTag

/-- A text with parts that are styled. -/
structure Styled where
  chars : List Char
  spans : List Span

/-- An open tag and its place in the text. -/
structure Opening where
  place : Nat
  tag : OpenTag

/-- The part of a text that an open tag styles if it is closed here. -/
def Opening.span (stop : Nat) (o : Opening) : Span :=
  ⟨o.place, stop, o.tag⟩

/-- How many open tags stand inside the one that a closing tag of a name closes. -/
def closingIndex (openings : List Opening) (name : List Char) : Nat :=
  match Text.trim Text.isSpace name with
  | [] => 0
  | name => openings.findIdx fun o => o.tag.style = Style.normal name

/-- The open tags after a tag at the end of a text of some length, and the part that the tag ends. -/
def applyTagAt (openings : List Opening) (length place : Nat) (content : List Char) :
    Except String (List Opening × Option Span) :=
  match applyTag (openings.map Opening.tag) place content with
  | .error e => .error e
  | .ok _ =>
    match tagName content with
    | '/' :: name =>
      let n := closingIndex openings name
      .ok (openings.eraseIdx n, (openings[n]?).map (Opening.span length))
    | name => .ok (⟨length, ⟨Style.normal name, tagContent content⟩⟩ :: openings, none)

/-- The text of pieces behind a text of some length, with some tags open, and the parts that end in it,
in the order in which they do. -/
def styledOf : (openings : List Opening) → (length : Nat) → List Piece →
    Except String (List Char × List Span)
  | openings, length, [] => .ok ([], openings.map (Opening.span length))
  | openings, length, .text cs :: ps =>
    (styledOf openings (length + (pieceText cs).length) ps).map fun (rest, spans) =>
      (pieceText cs ++ rest, spans)
  | openings, length, .tag place content :: ps =>
    match applyTagAt openings length place content with
    | .error e => .error e
    | .ok (openings, ended) =>
      (styledOf openings length ps).map fun (rest, spans) => (rest, ended.toList ++ spans)

/-- The text of markup with its styled parts, or the report of the first closing tag that is at
fault. -/
def styled (markup : List Char) : Except String Styled :=
  (styledOf [] 0 (pieces markup)).map fun (chars, spans) =>
    ⟨chars, spans.reverse.mergeSort fun s t => s.start ≤ t.start⟩

end Markup
end Console
end SqlDialects
