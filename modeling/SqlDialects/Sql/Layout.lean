import SqlDialects.Text.Blank

/-!
# Layouts

Text that is laid out in lines.

**Rules.**
* The lines of a layout are those that the layout itself makes. A line feed inside a literal stands
  within a line, so that it is never indented.
* A layout that follows another one goes on in its last line.

**Results.**
* `Layout.indent` and its variants move lines to the right.
* `Layout.width` is the length of the text, where the end of a line counts as a character.
-/

namespace SqlDialects
namespace Sql

/-- Text in lines. No line at all is the same text as an empty line. -/
structure Layout where
  lines : List String
deriving Inhabited

namespace Layout

/-- A text within a line. -/
def ofText (s : String) : Layout :=
  ⟨[s]⟩

/-- No text. -/
def empty : Layout :=
  ⟨[]⟩

/-- The end of a line. -/
def newline : Layout :=
  ⟨["", ""]⟩

/-- Lines with the first of the later lines going on in the last of the earlier ones. -/
def glue : List String → List String → List String
  | [], bs => bs
  | as, [] => as
  | [a], b :: bs => (a ++ b) :: bs
  | a :: as, bs => a :: glue as bs

instance : Append Layout :=
  ⟨fun a b => ⟨glue a.lines b.lines⟩⟩

/-- Whether there is no text. -/
def isEmpty (l : Layout) : Bool :=
  match l.lines with
  | [] => true
  | [s] => s.isEmpty
  | _ => false

/-- The length of the text. -/
def width (l : Layout) : Nat :=
  l.lines.foldl (fun n s => n + s.length) 0 + (l.lines.length - 1)

/-- Layouts one after another with a layout between them. -/
def join (between : Layout) : List Layout → Layout
  | [] => empty
  | [l] => l
  | l :: ls => l ++ between ++ join between ls

/-- A line moved to the right. -/
def shift (n : Nat) (s : String) : String :=
  String.ofList (List.replicate n ' ') ++ s

/-- The layout with all lines moved to the right; no text stays no text. -/
def indent (n : Nat) (l : Layout) : Layout :=
  if l.isEmpty then l else ⟨l.lines.map (shift n)⟩

/-- The layout with all lines but the first one moved to the right. -/
def indentRest (n : Nat) (l : Layout) : Layout :=
  match l.lines with
  | [] => l
  | s :: ss => ⟨s :: ss.map (shift n)⟩

/-- The layout with all lines but the first and the last one moved to the right. -/
def indentInner (n : Nat) (l : Layout) : Layout :=
  match l.lines with
  | [] => l
  | s :: ss => ⟨s :: ss.dropLast.map (shift n) ++ ss.getLast?.toList⟩

/-- The text. -/
def text (l : Layout) : String :=
  "\n".intercalate l.lines

/-- Whether the text starts with a blank, or is not there. -/
def startsBlank (l : Layout) : Bool :=
  match l.text.toList with
  | [] => true
  | c :: _ => Text.isSpace c

/-- The layout without the blanks at the end of its last line. -/
def trimEnd (l : Layout) : Layout :=
  match l.lines.getLast? with
  | none => l
  | some s =>
    ⟨l.lines.dropLast ++ [String.ofList (Text.trimEnd Text.isSpace s.toList)]⟩

/-- The text without blanks around it. -/
def trimmed (l : Layout) : String :=
  String.ofList (Text.trim Text.isSpace l.text.toList)

end Layout
end Sql
end SqlDialects
