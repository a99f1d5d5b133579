import SqlDialects.Console.Wrap

/-!
# Tables on a console

**Input.** A title, columns with their headings, and rows of texts.

**Algorithm.** A column is as wide as its longest text, with a blank on either side. If the table
is too wide, the widest columns are made narrower until they are as wide as the next ones, and so
on until the table fits.

**Results.**
* `Table.render` gives the lines of a table, with the title above it and heavy lines around the
  headings.
-/

namespace SqlDialects
namespace Console

/-- A column of a table. -/
structure Column where
  heading : List Char
  justify : Justify

/-- A table; every row has a text for each column. -/
structure Table where
  title : List Char
  columns : List Column
  rows : List (List (List Char))

namespace Table

/-- The blanks on both sides of a text. -/
def padding : Nat :=
  2

/-- A quotient rounded to nearest, a tie going to the even neighbour. -/
def roundRatio (num den : Nat) : Nat :=
  let q := num / den
  let r := num % den
  if 2 * r < den then q else if den < 2 * r then q + 1 else if q % 2 = 0 then q else q + 1

/-- Takes `total` away from the values whose mark is set, in even shares of at most `most`
each. -/
def reduceEvenly (most : Nat) : (total shares : Nat) → List (Nat × Bool) → List Nat
  | _, _, [] => []
  | total, shares, (v, marked) :: vs =>
    if marked && decide (0 < shares) then
      let share := min most (roundRatio total shares)
      (v - share) :: reduceEvenly most (total - share) (shares - 1) vs
    else v :: reduceEvenly most total shares vs

/-- The width of columns together. -/
def sumOf (ws : List Nat) : Nat :=
  ws.foldl (· + ·) 0

/-- Widths after the widest have been reduced until their sum is at most `limit`; every step makes
the widest as wide as the next, or reaches the limit. -/
def collapse (limit : Nat) : (fuel : Nat) → List Nat → List Nat
  | 0, ws => ws
  | fuel + 1, ws =>
    if sumOf ws ≤ limit then ws
    else
      let excess := sumOf ws - limit
      let widest := ws.foldl max 0
      let next := (ws.filter (· ≠ widest)).foldl max 0
      if widest ≤ next then ws
      else
        let marked := ws.map fun w => (w, w == widest)
        let shares := (ws.filter (· == widest)).length
        collapse limit fuel (reduceEvenly (min excess (widest - next)) excess shares marked)

/-- Widths after an even reduction of all to a sum of at most `limit`, as far as they reach. -/
def reduceAll (limit : Nat) : (total shares : Nat) → List Nat → List Nat
  | _, _, [] => []
  | total, shares, w :: ws =>
    if 0 < w ∧ 0 < shares then
      let share := min w (roundRatio total shares)
      (w - share) :: reduceAll limit (total - share) (shares - 1) ws
    else w :: reduceAll limit total shares ws

/-- The texts of a column, its heading first. -/
def columnTexts (t : Table) (i : Nat) : List (List Char) :=
  (t.columns.map (·.heading))[i]?.toList ++ t.rows.filterMap fun r => r[i]?

/-- The width that a column asks for. -/
def naturalWidth (t : Table) (limit i : Nat) : Nat :=
  if limit < padding + 1 then limit
  else min limit (((t.columnTexts i).map Wrap.longestLine).foldl max 0 + padding)

/-- The widths of the columns of a table whose columns may take `limit` together. -/
def widths (t : Table) (limit : Nat) : List Nat :=
  let indices := List.range t.columns.length
  let ws := indices.map fun i => max 1 (t.naturalWidth limit i)
  if sumOf ws ≤ limit then ws
  else
    let ws := collapse limit (sumOf ws + 1) ws
    let ws :=
      if sumOf ws ≤ limit then ws
      else reduceAll limit (sumOf ws - limit) (ws.filter (0 < ·)).length ws
    (ws.zip indices).map fun (w, i) => t.naturalWidth w i

/-- A line of a cell with its blanks, cut and filled up to the width of the column. -/
def cellLine (width : Nat) (cs : List Char) : List Char :=
  Wrap.fit width (' ' :: cs ++ [' '])

/-- The lines of a cell; a column that is no wider than its blanks has none. -/
def cellLines (width : Nat) (j : Justify) (cs : List Char) : List (List Char) :=
  if width ≤ padding then []
  else
    (Wrap.lines (width - padding) .ellipsis j cs).map fun l =>
      cellLine width (Wrap.fit (width - padding) l)

/-- The lines of a row between two edges, all cells filled up to the height of the highest. -/
def rowLines (edge : Char) (cells : List (Nat × List (List Char))) : List (List Char) :=
  let height := (cells.map fun c => c.2.length).foldl max 1
  (List.range height).map fun i =>
    edge :: cells.flatMap fun (w, ls) => ls[i]?.getD (List.replicate w ' ') ++ [edge]

/-- A line of the frame. -/
def ruleLine (left line cross right : Char) (ws : List Nat) : List Char :=
  left :: List.intercalate [cross] (ws.map fun w => List.replicate w line) ++ [right]

/-- The lines of a table on a console of some columns. -/
def render (t : Table) (width : Nat) : List (List Char) :=
  let frame := t.columns.length + 1
  let ws := t.widths (width - frame)
  let row (edge : Char) (cells : List (List Char)) : List (List Char) :=
    rowLines edge ((ws.zip (t.columns.zip cells)).map fun (w, c, cell) =>
      (w, cellLines w c.justify cell))
  Wrap.lines (sumOf ws + frame) .fold .center t.title
    ++ ruleLine '┏' '━' '┳' '┓' ws :: row '┃' (t.columns.map (·.heading))
    ++ ruleLine '┡' '━' '╇' '┩' ws :: t.rows.flatMap (row '│')
    ++ [ruleLine '└' '─' '┴' '┘' ws]

end Table
end Console
end SqlDialects
